import Mathlib.Logic.Function.Basic
import OrphanSweep.Proofs.Environments

/-! # Comma-separated names

    Names that can stand in a list are read back from every text that holds them between commas, with
    blanks around each and blank items among them (`commaItems_of_holds`).  Only such names are ever
    read (`item_of_mem_commaItems`), so what is read from a text can be written and read again.  For
    the settings this says that reading their collections undoes joining them
    (`collections_undo_joining`). -/

namespace OrphanSweep

namespace Text

/-- A name that can stand in a list: not empty, without a comma, and without a blank at an end. -/
structure Item (name : String) : Prop where
  ne_empty : name ≠ ""
  no_comma : ',' ∉ name.toList
  bare     : Bare isBlank name.toList

/-- Pieces of a text that hold names in their order, each between blanks, or nothing but blanks. -/
inductive Holds : (pieces : List String) → (names : List String) → Prop
  | nil : Holds [] []
  | blank {piece : String} {pieces names : List String} : Padding isBlank piece.toList →
      Holds pieces names → Holds (piece :: pieces) names
  | name {before name after : String} {pieces names : List String} :
      Padding isBlank before.toList → Padding isBlank after.toList → Holds pieces names →
      Holds ((before ++ name ++ after) :: pieces) (name :: names)

/-! ## From the names to the text and back -/

theorem join_eq_intercalate (sep : Char) :
    ∀ ps : List (List Char), join sep ps = [sep].intercalate ps
  | []          => rfl
  | [p]         => by simp [join]
  | p :: q :: r => by
      rw [join, join_eq_intercalate sep (q :: r)]
      simp [List.intercalate]

theorem comma_not_mem_padding {s : List Char} (h : Padding isBlank s) : ',' ∉ s := by
  intro hmem
  exact absurd (h ',' hmem) (by decide)

/-- The pieces hold no comma, for neither names nor blanks do. -/
theorem Holds.no_comma {pieces names : List String} (h : Holds pieces names)
    (hnames : ∀ name ∈ names, Item name) : ∀ p ∈ pieces.map String.toList, ',' ∉ p := by
  induction h with
  | nil => exact List.forall_mem_nil _
  | blank hpiece _ ih =>
      exact List.forall_mem_cons.mpr ⟨comma_not_mem_padding hpiece, ih hnames⟩
  | name hbefore hafter _ ih =>
      obtain ⟨hname, hrest⟩ := List.forall_mem_cons.mp hnames
      refine List.forall_mem_cons.mpr ⟨?_, ih hrest⟩
      rw [String.toList_append, String.toList_append, List.mem_append, List.mem_append]
      rintro ((hmem | hmem) | hmem)
      · exact comma_not_mem_padding hbefore hmem
      · exact hname.no_comma hmem
      · exact comma_not_mem_padding hafter hmem

/-- Trimming leaves the names of the pieces that hold one, and nothing of the others. -/
theorem Holds.trimmed {pieces names : List String} (h : Holds pieces names)
    (hnames : ∀ name ∈ names, Item name) :
    ((pieces.map String.toList).map trim).filter (· ≠ []) = names.map String.toList := by
  induction h with
  | nil => rfl
  | blank hpiece _ ih =>
      rw [List.map_cons, List.map_cons, trim, trimBy_of_padding hpiece, List.filter_cons,
        if_neg (by decide)]
      exact ih hnames
  | name hbefore hafter _ ih =>
      obtain ⟨hname, hrest⟩ := List.forall_mem_cons.mp hnames
      have hne : String.toList _ ≠ [] := mt String.toList_eq_nil_iff.mp hname.ne_empty
      rw [List.map_cons, List.map_cons, List.map_cons, trim, String.toList_append,
        String.toList_append, trimBy_padded hbefore hname.bare hafter, List.filter_cons,
        if_pos (decide_eq_true hne), ih hrest]

/-- **Reading undoes joining.** -/
theorem commaItems_of_holds {pieces names : List String} (h : Holds pieces names)
    (hnames : ∀ name ∈ names, Item name) : commaItems (",".intercalate pieces) = names := by
  have htext : (",".intercalate pieces).toList = join ',' (pieces.map String.toList) := by
    rw [String.toList_intercalate, join_eq_intercalate]
    rfl
  by_cases hnil : pieces = []
  · subst hnil
    cases h
    rfl
  · have hne : pieces.map String.toList ≠ [] := by
      rwa [ne_eq, List.map_eq_nil_iff]
    rw [commaItems, items, htext, pieces_join hne (h.no_comma hnames), h.trimmed hnames,
      List.map_map]
    exact (List.map_congr_left fun _ _ => String.ofList_toList).trans (List.map_id names)

/-! ## From the text to the names and back -/

/-- Only names that can stand in a list are read. -/
theorem item_of_mem_commaItems {s name : String} (h : name ∈ commaItems s) : Item name := by
  obtain ⟨item, hitem, rfl⟩ := List.mem_map.mp h
  obtain ⟨hmem, hne⟩ := List.mem_filter.mp hitem
  obtain ⟨piece, hpiece, rfl⟩ := List.mem_map.mp hmem
  constructor
  case ne_empty =>
    rw [ne_eq, ← String.toList_inj, String.toList_ofList]
    exact of_decide_eq_true hne
  case no_comma =>
    rw [String.toList_ofList]
    exact fun hcomma => not_mem_of_mem_pieces piece hpiece (mem_of_mem_trimBy hcomma)
  case bare =>
    rw [String.toList_ofList]
    exact bare_trimBy isBlank piece

/-- Names with nothing around them hold themselves. -/
theorem holds_self (names : List String) : Holds names names := by
  induction names with
  | nil => exact .nil
  | cons name names ih =>
      have hpadded : Holds (("" ++ name ++ "") :: names) (name :: names) :=
        .name (by decide) (by decide) ih
      rwa [String.empty_append, String.append_empty] at hpadded

end Text

/-! ## The collections of the settings -/

namespace Settings

/-- The environment with another text for the collections. -/
def naming (env : Environment) (raw : String) : Environment :=
  Function.update env "SYNC_COLLECTIONS" (some raw)

theorem naming_of_ne {env : Environment} {raw name : String} (h : name ≠ "SYNC_COLLECTIONS") :
    naming env raw name = env name := Function.update_of_ne h _ _

theorem overlaid_naming (env : Environment) (raw : String) (s : Settings) :
    overlaid (naming env raw) s = { overlaid env s with collections := Text.commaItems raw } := by
  simp [overlaid, text, list, naming]

/-- The text for the collections gives them, and nothing else of what is read. -/
theorem read_naming (env : Environment) (raw : String) :
    read (naming env raw) =
      (read env).map fun s => { s with collections := Text.commaItems raw } := by
  have hintegers : ∀ setting ∈ integerSettings, naming env raw setting.name = env setting.name := by
    simp only [integerSettings, List.forall_mem_cons]
    exact ⟨naming_of_ne (by decide), naming_of_ne (by decide), naming_of_ne (by decide),
      naming_of_ne (by decide), naming_of_ne (by decide), List.forall_mem_nil _⟩
  rw [read_overlaid hintegers]
  cases hread : read env with
  | error failure => rfl
  | ok s =>
      show Except.ok (overlaid (naming env raw) s) = .ok _
      rw [overlaid_naming, overlaid_of_read hread]

/-- **Reading the collections undoes joining them.**  Names that can stand in a list are read back,
    in their order and as often as they stand there, from every text that holds them between commas,
    and all other settings stay as they are.  Conversely only such names are ever read, and joined
    with commas they are read again. -/
theorem collections_undo_joining (env : Environment) :
    (∀ pieces names, Text.Holds pieces names → (∀ name ∈ names, Text.Item name) →
      read (naming env (",".intercalate pieces)) =
        (read env).map fun s => { s with collections := names }) ∧
    ∀ s, read env = .ok s → (∀ name ∈ s.collections, Text.Item name) ∧
      read (naming env (",".intercalate s.collections)) = .ok s := by
  constructor
  · intro pieces names hholds hnames
    rw [read_naming, Text.commaItems_of_holds hholds hnames]
  · intro s hread
    have hcollections : s.collections = Text.commaItems (text env "SYNC_COLLECTIONS" "") :=
      (read_ok hread).1
    have hitems : ∀ name ∈ s.collections, Text.Item name := by
      rw [hcollections]
      exact fun name => Text.item_of_mem_commaItems
    refine ⟨hitems, ?_⟩
    rw [read_naming, Text.commaItems_of_holds (Text.holds_self _) hitems, hread]
    rfl

/-- Two names, one of them twice and with a blank inside, between blank items of all kinds. -/
theorem collections_undo_joining_padded :
    let env : Environment := fun _ => none
    ∃ s, read (naming env ",\u3000a b ,\x1c, c\n,a b,,") = .ok s ∧
      s.collections = ["a b", "c", "a b"] ∧ read (naming env "a b,c,a b") = .ok s := by
  intro env
  obtain ⟨hjoined, -⟩ := collections_undo_joining env
  obtain ⟨s, hs⟩ : ∃ s, read env = .ok s := ⟨_, rfl⟩
  let pieces := ["", "\u3000" ++ "a b" ++ " ", "\x1c", " " ++ "c" ++ "\n", "" ++ "a b" ++ "", "", ""]
  have hholds : Text.Holds pieces ["a b", "c", "a b"] :=
    .blank (by decide) <| .name (by decide) (by decide) <| .blank (by decide) <|
      .name (by decide) (by decide) <| .name (by decide) (by decide) <| .blank (by decide) <|
      .blank (by decide) .nil
  have hitem : ∀ name ∈ ["a b", "c", "a b"], Text.Item name := by
    have hspaced : Text.Item "a b" := ⟨by decide, by decide, by decide⟩
    have hplain : Text.Item "c" := ⟨by decide, by decide, by decide⟩
    simp [hspaced, hplain]
  have hpadded := hjoined pieces _ hholds hitem
  have hbare := hjoined _ _ (Text.holds_self _) hitem
  rw [hs] at hpadded hbare
  rw [show ",\u3000a b ,\x1c, c\n,a b,," = ",".intercalate pieces by decide,
    show "a b,c,a b" = ",".intercalate ["a b", "c", "a b"] by decide]
  exact ⟨_, hpadded, rfl, hbare⟩

end Settings

end OrphanSweep
