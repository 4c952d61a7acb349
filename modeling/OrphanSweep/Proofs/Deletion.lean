import OrphanSweep.Proofs.Registry
import OrphanSweep.Proofs.Scan
import OrphanSweep.Proofs.Sweep
import OrphanSweep.Proofs.Watch
import OrphanSweep.Session

/-! # Only orphans are deleted

    A delete is justified by what was said before it in the same scan: the last page that could be
    used, and the last lookup that was answered, which was for just that page.  A scan asks for no
    other deletes, whatever it is answered (`asks_justified_scan`).  Since lookups tell the truth,
    the ids of such a delete have no row. -/

namespace OrphanSweep

/-! ## What justifies a delete -/

/-- Whether a call asks for a delete. -/
def Call.isDelete : Call → Bool
  | .delete _ => true
  | _         => false

namespace Said

/-- The page that an answer has brought, if it can be used. -/
def page? (name : String) : Answered Call Call.Reply → Option (Page PointId)
  | ⟨.scroll _ _, .ok raw⟩ => (Page.ofRaw name raw).toOption
  | _                      => none

/-- The ids of a lookup that was answered. -/
def lookup? : Answered Call Call.Reply → Option PointSet
  | ⟨.lookup ids, .ok _⟩ => some ids
  | _                    => none

/-- The page that was scrolled last. -/
def lastPage (name : String) (said : Said) : Option (Page PointId) :=
  (said.filterMap (page? name)).getLast?

/-- The ids that were looked up last. -/
def lastLookup (said : Said) : Option PointSet :=
  (said.filterMap lookup?).getLast?

variable {name : String} {said : Said}

theorem lastPage_concat (a : Answered Call Call.Reply) :
    lastPage name (said ++ [a]) = (page? name a).or (lastPage name said) := by
  rw [lastPage, List.filterMap_append, List.getLast?_append, List.filterMap_cons]
  cases page? name a <;> rfl

theorem lastLookup_concat (a : Answered Call Call.Reply) :
    lastLookup (said ++ [a]) = (lookup? a).or (lastLookup said) := by
  rw [lastLookup, List.filterMap_append, List.getLast?_append, List.filterMap_cons]
  cases lookup? a <;> rfl

end Said

/-- What was said justifies to delete some ids: there are some, and they are those of the last page
    that have no row, and that page was looked up last. -/
structure Justified (dryRun : Bool) (registry : Registry) (name : String) (said : Said)
    (ids : PointSet) : Prop where
  wet      : dryRun = false
  nonempty : ids.isEmpty = false
  page     : ∃ page, Said.lastPage name said = some page ∧
    Said.lastLookup said = some (PointSet.ofList page.ids) ∧
    ∀ p, p ∈ ids ↔ p ∈ page.ids ∧ registry.hasRow p = false

/-- Every delete among what was said was justified when it was asked for. -/
def Guarded (dryRun : Bool) (registry : Registry) (name : String) (said : Said) : Prop :=
  ∀ earlier ids reply later, said = earlier ++ ⟨.delete ids, reply⟩ :: later →
    Justified dryRun registry name earlier ids

/-! ## What a scan asks -/

/-- The questions that may be asked after what was said. -/
def Warranted (dryRun : Bool) (registry : Registry) (name : String) : Call → Said → Prop
  | .delete ids, said => Justified dryRun registry name said ids
  | _, _              => True

/-- A lookup that is answered tells which ids have a row; other answers can be anything. -/
def Truthful (registry : Registry) : (call : Call) → call.Reply → Prop
  | .lookup ids, .ok known => known = ids.filter registry.hasRow
  | _, _                   => True

/-- Answers are added to what was said. -/
def Hears (registry : Registry) (call : Call) (said : Said) (reply : call.Reply) (next : Said) :
    Prop :=
  next = said ++ [⟨call, reply⟩] ∧ Truthful registry call reply

namespace Scan

open Dialogue

variable (plan : Plan) (registry : Registry) (name : String)

/-- A dialogue that asks for no delete that is not justified. -/
abbrev AsksJustified {α : Type} (post : α → Said → Prop) (talk : Talk α) (said : Said) : Prop :=
  talk.Keeps (Warranted plan.dryRun registry name) (Hears registry) post said

/-- A scroll brings the last page. -/
theorem asks_justified_fetch (cursor : Option PointId) (said : Said) :
    AsksJustified plan registry name
      (Ending (fun page now => Said.lastPage name now = some page) fun _ => True)
      (fetch plan name cursor) said := by
  refine ⟨trivial, ?_⟩
  rintro reply now ⟨rfl, -⟩
  cases reply with
  | error failure => trivial
  | ok raw =>
      show Ending _ _ (Page.ofRaw name raw) _
      cases hpage : Page.ofRaw name raw with
      | error failure => trivial
      | ok page =>
          show Said.lastPage name _ = some page
          rw [Said.lastPage_concat, Said.page?, hpage]
          rfl

/-- The last page and the last lookup agree. -/
structure LookedUp (page : Page PointId) (said : Said) : Prop where
  scrolled : Said.lastPage name said = some page
  answered : Said.lastLookup said = some (PointSet.ofList page.ids)

/-- A lookup of the last page, answered, is the last lookup. -/
theorem asks_justified_lookup {page : Page PointId} {said : Said}
    (h : Said.lastPage name said = some page) :
    AsksJustified plan registry name
      (Ending
        (fun known now => LookedUp name page now ∧
          known = (PointSet.ofList page.ids).filter registry.hasRow)
        fun now => Said.lastPage name now = some page)
      (lookup (.ofList page.ids)) said := by
  refine ⟨trivial, ?_⟩
  rintro reply now ⟨rfl, htruth⟩
  have hpage : ∀ reply : Except Failure PointSet,
      Said.lastPage name (said ++ [⟨.lookup (.ofList page.ids), reply⟩]) = some page := by
    intro reply
    rw [Said.lastPage_concat, ← h]
    rfl
  cases reply with
  | error failure => exact hpage _
  | ok known =>
      refine ⟨⟨hpage _, ?_⟩, htruth⟩
      rw [Said.lastLookup_concat]
      rfl

/-- To delete, again and again, is justified as long as nothing else is said. -/
theorem asks_justified_delete {page : Page PointId} {ids : PointSet} {said : Said}
    (hwet : plan.dryRun = false) (hnonempty : ids.isEmpty = false)
    (hids : ∀ p, p ∈ ids ↔ p ∈ page.ids ∧ registry.hasRow p = false)
    (h : LookedUp name page said) :
    AsksJustified plan registry name (Ending (fun _ _ => True) (LookedUp name page))
      (delete name ids) said := by
  refine ⟨⟨hwet, hnonempty, page, h.scrolled, h.answered, hids⟩, ?_⟩
  rintro reply now ⟨rfl, -⟩
  rw [keeps_showAll, keeps_ended]
  cases reply with
  | ok _ => trivial
  | error failure =>
      -- a delete is neither a scroll nor a lookup, so the last ones are still the last
      refine ⟨?_, ?_⟩
      · rw [Said.lastPage_concat]
        exact h.scrolled
      · rw [Said.lastLookup_concat]
        exact h.answered

/-- The work on the last page asks for no other delete than that of its orphans. -/
theorem asks_justified_work (t : Tally) {page : Page PointId} {said : Said}
    (h : Said.lastPage name said = some page) :
    AsksJustified plan registry name (fun _ _ => True) (work plan name t page.ids) said := by
  rw [work]
  split
  · trivial
  · refine keeps_andThen (keeps_call (fun _ h => h)
      (fun _ h => asks_justified_lookup plan registry name h) h) ?_ (fun _ _ _ => trivial)
    rintro _ last ⟨hlooked, rfl⟩
    dsimp only
    split
    · trivial
    · rename_i hsome
      refine keeps_shows.mpr ?_
      rw [prune]
      split
      · trivial
      · rename_i hwet
        -- the lookup told the truth, so what it did not name has no row
        have hids : ∀ p, p ∈ PointSet.ofList page.ids \
              (PointSet.ofList page.ids).filter registry.hasRow ↔
            p ∈ page.ids ∧ registry.hasRow p = false := by
          intro p
          rw [PointSet.mem_diff, PointSet.mem_filter, PointSet.mem_ofList]
          cases registry.hasRow p <;> simp
        exact keeps_andThen (keeps_call (fun _ h => h)
          (fun _ h => asks_justified_delete plan registry name (Bool.eq_false_iff.mpr hwet)
            (Bool.eq_false_iff.mpr hsome) hids h) hlooked)
          (fun _ _ _ => trivial) (fun _ _ _ => trivial)

/-- So do all pages, from any cursor on. -/
theorem asks_justified_pages (bound : Nat) :
    ∀ (t : Tally) (cursor : Option PointId) (said : Said),
      AsksJustified plan registry name (fun _ _ => True) (pages plan name bound t cursor) said := by
  induction bound with
  | zero => intro t cursor said; trivial
  | succ bound ih =>
      intro t cursor said
      refine ⟨trivial, ?_⟩
      rintro stop now ⟨rfl, -⟩
      dsimp only
      split
      · trivial
      · refine keeps_andThen (keeps_call (fun _ _ => trivial)
          (fun now _ => asks_justified_fetch plan registry name cursor now) trivial) ?_
          (fun _ _ _ => trivial)
        intro page last hpage
        refine (asks_justified_work plan registry name _ hpage).andThen ?_ (fun _ _ _ => trivial)
        intro t' last' _
        split
        · trivial
        · split
          · trivial
          · exact ih _ _ _

/-- **A scan asks for no delete that is not justified**, whatever it is answered. -/
theorem asks_justified_scan (bound : Nat) (said : Said) :
    AsksJustified plan registry name (fun _ _ => True) (scan plan name bound) said :=
  keeps_shows.mpr ((asks_justified_pages plan registry name bound _ none said).andThen
    (fun _ _ _ => trivial) (fun _ _ _ => trivial))

end Scan

end OrphanSweep
