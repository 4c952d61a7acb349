import OrphanSweep.Text.FormField
import OrphanSweep.Text.Word

/-! # Database addresses

    An address opens with the name of its scheme, a word in which plus signs may stand, and the
    mark `://`.  Then follow, each of them optional, a user with a password and an at sign, a host,
    a colon with a port, a slash with the name of a database, and a question mark with a query.
    Whatever is left over means nothing. -/

namespace OrphanSweep

/-- An address, as far as it decides whether it can be used. -/
structure DatabaseUrl where
  scheme : String
  port   : Option String
  fields : List (String × String)

namespace DatabaseUrl

/-- Whether a character may stand in the name of a scheme. -/
def isSchemeChar (c : Char) : Bool := Text.isWordChar c || c = '+'

/-- What follows the first mark in a text. -/
def afterFirst (mark : Char) (s : List Char) : List Char := (s.dropWhile (· ≠ mark)).drop 1

/-- What follows the last mark in a text. -/
def afterLast (mark : Char) (s : List Char) : List Char :=
  (s.reverse.takeWhile (· ≠ mark)).reverse

/-- What follows the user.  A password reaches to the first at sign; a user without one reaches
    to the last at sign before the first colon or slash. -/
def afterUser (s : List Char) : List Char :=
  let user := s.takeWhile fun c => c ≠ ':' && c ≠ '/'
  let rest := s.dropWhile fun c => c ≠ ':' && c ≠ '/'
  if rest.head? = some ':' && rest.contains '@' then afterFirst '@' rest
  else if user.contains '@' then afterLast '@' user ++ rest
  else s

/-- What follows a host in square brackets, which is not empty. -/
def afterBrackets? : List Char → Option (List Char)
  | '[' :: s =>
      let host := s.takeWhile fun c => c ≠ '/' && c ≠ '?'
      let rest := s.dropWhile fun c => c ≠ '/' && c ≠ '?'
      if (host.drop 1).contains ']' then some (afterLast ']' host ++ rest) else none
  | _ => none

/-- What follows the host. -/
def afterHost (s : List Char) : List Char :=
  (afterBrackets? s).getD (s.dropWhile fun c => c ≠ ':' && c ≠ '/' && c ≠ '?')

/-- The port at the beginning of a text, and what follows it. -/
def splitPort : List Char → Option (List Char) × List Char
  | ':' :: s =>
      (some (s.takeWhile fun c => c ≠ '/' && c ≠ '?'), s.dropWhile fun c => c ≠ '/' && c ≠ '?')
  | s => (none, s)

/-- What follows the name of the database. -/
def afterPath : List Char → List Char
  | '/' :: s => s.dropWhile (· ≠ '?')
  | s        => s

/-- The query at the beginning of a text, which ends with the line. -/
def query : List Char → List Char
  | '?' :: s => s.takeWhile (· ≠ '\n')
  | _        => []

/-- Takes what follows the mark of the scheme apart. -/
def ofRest (scheme : String) (rest : List Char) : DatabaseUrl :=
  let (port, path) := splitPort (afterHost (afterUser rest))
  { scheme, port := port.map String.ofList, fields := Text.fields (query (afterPath path)) }

/-- Takes an address apart; without a scheme it is none. -/
def parse? (url : String) : Option DatabaseUrl :=
  let name := url.toList.takeWhile isSchemeChar
  match url.toList.dropWhile isSchemeChar with
  | ':' :: '/' :: '/' :: rest => if name = [] then none else some (ofRest (String.ofList name) rest)
  | _                         => none

end DatabaseUrl

end OrphanSweep
