import OrphanSweep.Proofs.MalformedPages
import OrphanSweep.Proofs.Spellings

/-! # The canonical texts of ids

    An id is written as five groups of lower-case digits with dashes between them, and every such
    text is that of an id (`canonical_iff`).  It is one of the spellings of the id, so what is
    written is read back (`parse?_text`).  The dashes stand at the same places in all of them, so
    the texts are in the order of the ids (`text_le_text_iff`).  A scan relies on both: its cursor
    is sent and comes back as a text, and it begins in front of all ids
    (`texts_agree_with_values`). -/

namespace OrphanSweep

namespace Text

/-! ## Joined groups -/

/-- Behind the first group every group has a separator in front. -/
theorem join_cons (sep : Char) (g : List Char) (groups : List (List Char)) :
    join sep (g :: groups) = g ++ groups.flatMap (sep :: ·) := by
  induction groups generalizing g with
  | nil => simp [Text.join]
  | cons g' groups ih => rw [Text.join, ih, List.flatMap_cons, List.cons_append]

/-- A list without the separator is kept as it is. -/
theorem filter_of_not_mem {sep : Char} {l : List Char} (h : sep ∉ l) : l.filter (· ≠ sep) = l := by
  refine List.filter_eq_self.mpr fun c hc => decide_eq_true ?_
  rintro rfl
  exact h hc

theorem filter_flatMap {sep : Char} {groups : List (List Char)} (h : sep ∉ groups.flatten) :
    (groups.flatMap (sep :: ·)).filter (· ≠ sep) = groups.flatten := by
  induction groups with
  | nil => rfl
  | cons g groups ih =>
      rw [List.flatten_cons, List.mem_append, not_or] at h
      have hsep : (sep :: g).filter (· ≠ sep) = g.filter (· ≠ sep) :=
        List.filter_cons_of_neg (by simp)
      rw [List.flatMap_cons, List.filter_append, hsep, filter_of_not_mem h.1, ih h.2,
        List.flatten_cons]

/-- Without the separators joined groups are the groups in a row. -/
theorem filter_join {sep : Char} {g : List Char} {groups : List (List Char)}
    (h : sep ∉ (g :: groups).flatten) :
    (join sep (g :: groups)).filter (· ≠ sep) = (g :: groups).flatten := by
  rw [List.flatten_cons, List.mem_append, not_or] at h
  rw [join_cons, List.filter_append, filter_of_not_mem h.1, filter_flatMap h.2, List.flatten_cons]

theorem length_join (sep : Char) (g : List Char) (groups : List (List Char)) :
    (join sep (g :: groups)).length = (g :: groups).flatten.length + groups.length := by
  rw [join_cons]
  induction groups with
  | nil => simp
  | cons g' groups ih =>
      simp only [List.flatMap_cons, List.flatten_cons, List.length_append, List.length_cons]
        at ih ⊢
      omega

theorem flatMap_lt_flatMap_iff {sep : Char} {gs hs : List (List Char)}
    (hlengths : gs.map List.length = hs.map List.length) :
    gs.flatMap (sep :: ·) < hs.flatMap (sep :: ·) ↔ gs.flatten < hs.flatten := by
  induction gs generalizing hs with
  | nil =>
      obtain rfl := List.map_eq_nil_iff.mp hlengths.symm
      exact Iff.rfl
  | cons g gs ih =>
      cases hs with
      | nil => cases hlengths
      | cons h hs =>
          obtain ⟨hfirst, hrest⟩ := List.cons.inj hlengths
          have hsep : ¬ sep < sep := Char.lt_irrefl sep
          rw [List.flatMap_cons, List.flatMap_cons, List.flatten_cons, List.flatten_cons,
            List.cons_append, List.cons_append, List.cons_lt_cons_iff,
            append_lt_append_iff hfirst, append_lt_append_iff hfirst, ih hrest]
          simp only [hsep, false_or, true_and]

/-- Separators at the same places do not change the order. -/
theorem join_lt_join_iff {sep : Char} {g h : List Char} {gs hs : List (List Char)}
    (hlengths : (g :: gs).map List.length = (h :: hs).map List.length) :
    join sep (g :: gs) < join sep (h :: hs) ↔ (g :: gs).flatten < (h :: hs).flatten := by
  obtain ⟨hfirst, hrest⟩ := List.cons.inj hlengths
  rw [join_cons, join_cons, List.flatten_cons, List.flatten_cons,
    append_lt_append_iff hfirst, append_lt_append_iff hfirst,
    flatMap_lt_flatMap_iff hrest]

end Text

namespace PointId

/-! ## Groups -/

section Cutting

variable {lengths : List Nat} {l : List Char}

theorem flatten_cut (lengths : List Nat) (l : List Char) :
    (cut lengths l).flatten = l.take lengths.sum := by
  induction lengths generalizing l with
  | nil => simp [cut]
  | cons n lengths ih => rw [cut, List.flatten_cons, ih, List.sum_cons, List.take_add]

theorem map_length_cut (h : lengths.sum ≤ l.length) :
    (cut lengths l).map List.length = lengths := by
  induction lengths generalizing l with
  | nil => rfl
  | cons n lengths ih =>
      rw [List.sum_cons] at h
      rw [cut, List.map_cons, List.length_take, Nat.min_eq_left (by omega), ih]
      rw [List.length_drop]
      omega

/-- Cutting undoes putting together. -/
theorem cut_flatten (groups : List (List Char)) :
    cut (groups.map List.length) groups.flatten = groups := by
  induction groups with
  | nil => rfl
  | cons g groups ih =>
      rw [List.map_cons, List.flatten_cons, cut, List.take_left, List.drop_left, ih]

end Cutting

/-! ## The canonical form -/

/-- The canonical form: five groups of lower-case digits with dashes between them. -/
def Canonical (s : String) : Prop :=
  ∃ groups : List (List Char), groups.map List.length = [8, 4, 4, 4, 12] ∧
    (∀ c ∈ groups.flatten, c ∈ Numeral.lowerDigits) ∧ s.toList = Text.join '-' groups

/-- The groups of an id, one after the other, are its digits. -/
theorem exists_groups (p : PointId) : ∃ g groups, p.chars = Text.join '-' (g :: groups) ∧
    (g :: groups).map List.length = [8, 4, 4, 4, 12] ∧
    (g :: groups).flatten = Numeral.hexadecimal 32 p.val := by
  have hlength : (Numeral.hexadecimal 32 p.val).length = 32 := Numeral.length_hexadecimal 32 p.val
  have hlengths : (cut [8, 4, 4, 4, 12] (Numeral.hexadecimal 32 p.val)).map List.length =
      [8, 4, 4, 4, 12] := map_length_cut hlength.ge
  have hflatten : (cut [8, 4, 4, 4, 12] (Numeral.hexadecimal 32 p.val)).flatten =
      Numeral.hexadecimal 32 p.val :=
    (flatten_cut _ _).trans (List.take_of_length_le hlength.le)
  exact ⟨_, _, rfl, hlengths, hflatten⟩

theorem toList_text (p : PointId) : p.text.toList = p.chars := String.toList_ofList

theorem canonical_text (p : PointId) : Canonical p.text := by
  obtain ⟨g, groups, hchars, hlengths, hdigits⟩ := exists_groups p
  refine ⟨g :: groups, hlengths, ?_, (toList_text p).trans hchars⟩
  rw [hdigits]
  exact fun c => Numeral.mem_lowerDigits_of_mem_hexadecimal

/-- **The canonical texts are the texts of the ids.** -/
theorem canonical_iff {s : String} : Canonical s ↔ ∃ p : PointId, p.text = s := by
  constructor
  · rintro ⟨groups, hlengths, hdigits, hs⟩
    obtain ⟨n, hn, hwritten⟩ := Numeral.exists_hexadecimal groups.flatten hdigits
    have hwidth : groups.flatten.length = 32 := by
      rw [List.length_flatten, hlengths]
      rfl
    rw [hwidth] at hn hwritten
    refine ⟨⟨n, hn⟩, ?_⟩
    rw [← String.toList_inj, toList_text, hs, chars, hwritten, ← hlengths, cut_flatten]
  · rintro ⟨p, rfl⟩
    exact canonical_text p

theorem length_text (p : PointId) : p.text.length = 36 := by
  obtain ⟨g, groups, hchars, hlengths, hdigits⟩ := exists_groups p
  have hcount : groups.length = 4 := by simpa using congrArg List.length hlengths
  rw [← String.length_toList, toList_text, hchars, Text.length_join, hdigits,
    Numeral.length_hexadecimal, hcount]

/-! ## Writing and reading -/

/-- A text that lacks a character of a word does not hold the word. -/
theorem struck_of_not_mem {word s : List Char} {c : Char} (hc : c ∈ word) (hs : c ∉ s) :
    Struck word s s := by
  induction s with
  | nil => exact .nil
  | cons a s ih =>
      refine .other (fun hoccurs => hs (hoccurs.subset hc)) (ih ?_)
      exact fun hmem => hs (List.mem_cons_of_mem a hmem)

/-- The canonical text spells the id: it holds neither a name nor a brace. -/
theorem spells_text (p : PointId) : Spells p.text p.val := by
  obtain ⟨g, groups, hchars, -, hdigits⟩ := exists_groups p
  have hdash : '-' ∉ (g :: groups).flatten := by
    rw [hdigits]
    intro hmem
    exact absurd (Numeral.mem_lowerDigits_of_mem_hexadecimal hmem) (by decide)
  have hcore : p.chars.filter (· ≠ '-') = Numeral.hexadecimal 32 p.val := by
    rw [hchars, Text.filter_join hdash, hdigits]
  have hcolon : ':' ∉ p.chars := by
    intro hmem
    have hdigit : ':' ∈ p.chars.filter (· ≠ '-') := List.mem_filter.mpr ⟨hmem, by decide⟩
    rw [hcore] at hdigit
    exact absurd (Numeral.mem_lowerDigits_of_mem_hexadecimal hdigit) (by decide)
  have hbraced : p.chars = [] ++ p.chars ++ [] := by rw [List.nil_append, List.append_nil]
  have hnone : Text.Padding isBrace [] := List.forall_mem_nil _
  have hstruck : ∀ word : List Char, ':' ∈ word → Struck word p.chars p.chars :=
    fun word hword => struck_of_not_mem hword hcolon
  have hurn : Struck "urn:".toList p.text.toList p.chars := by
    rw [toList_text]
    exact hstruck _ (by decide)
  refine ⟨hurn, hstruck _ (by decide), hbraced, hnone, hnone, ?_, ?_⟩
  · rw [hcore]
    exact Numeral.length_hexadecimal 32 p.val
  · rw [hcore]
    exact Numeral.writesHexadecimal_of_lt p.isLt

/-- **What is written is read back.** -/
theorem parse?_text (p : PointId) : parse? p.text = some p := parse?_eq_some_iff.mpr (spells_text p)

/-! ## The order -/

theorem text_lt_text_iff {p q : PointId} : p.text < q.text ↔ p.val < q.val := by
  obtain ⟨g, gs, hp, hgs, hpdigits⟩ := exists_groups p
  obtain ⟨h, hs, hq, hhs, hqdigits⟩ := exists_groups q
  have htexts : p.text < q.text ↔ p.text.toList < q.text.toList := Iff.rfl
  rw [htexts, toList_text, toList_text, hp, hq, Text.join_lt_join_iff (hgs.trans hhs.symm), hpdigits,
    hqdigits, Numeral.hexadecimal_lt_iff p.isLt q.isLt]

/-- **Texts are in the order of their ids.** -/
theorem text_le_text_iff {p q : PointId} : p.text ≤ q.text ↔ p.val ≤ q.val := by
  have htexts : p.text ≤ q.text ↔ ¬ q.text < p.text := Iff.rfl
  rw [htexts, text_lt_text_iff, Nat.not_lt]

theorem text_eq_text_iff {p q : PointId} : p.text = q.text ↔ p.val = q.val := by
  constructor
  · intro h
    have hread := parse?_text p
    rw [h, parse?_text q] at hread
    exact (congrArg val (Option.some.inj hread)).symm
  · intro h
    obtain rfl : p = q := by
      cases p
      cases q
      cases h
      rfl
    rfl

/-- The offset that a scan begins at. -/
theorem offsetOf_none :
    ScrollRequest.offsetOf none = "00000000-0000-0000-0000-000000000000" := by decide +kernel

/-! ## Cursors -/

section Cursors

variable {name s : String} {p : PointId}

/-- A cursor may be any spelling of its id. -/
theorem cursor_of_parse (h : parse? s = some p) : (Value.text s).cursor name = .ok (some p) := by
  have hsome : Value.text s ≠ .null := nofun
  rw [Value.cursor_eq hsome, Value.pointId_of_names (.text h)]
  rfl

/-- What becomes of a page is what is read of it. -/
theorem scrolled_ok_iff {raw : RawPage} {page : Page PointId} :
    VectorStore.scrolled name (.ok raw) = .ok page ↔ raw.Reads page := Page.ofRaw_ok_iff

/-- A page whose cursor is the offset that the next request sends is read as the same page. -/
theorem scrolled_of_sent {raw : RawPage} {page : Page PointId}
    (h : VectorStore.scrolled name (.ok raw) = .ok page) (hnext : page.next ≠ none) :
    let offset := ScrollRequest.offsetOf (page.next.map text)
    VectorStore.scrolled name (.ok { raw with next := .text offset }) = .ok page := by
  intro offset
  obtain ⟨p, hp⟩ := Option.ne_none_iff_exists'.mp hnext
  have hoffset : offset = p.text := by
    simp only [offset, hp, Option.map_some, ScrollRequest.offsetOf, Option.getD_some]
  have hnames : (Value.text offset).Names p := by
    rw [hoffset]
    exact .text (parse?_text p)
  exact scrolled_ok_iff.mpr ⟨(scrolled_ok_iff.mp h).ids, Or.inr ⟨p, hnames, hp⟩⟩

end Cursors

/-- **The texts of ids agree with their values.**  An id is written in the canonical form of 36
    characters and read back from it.  It is read from exactly its spellings, and no number that is
    spelled is out of range.  So a cursor that comes back as it was sent stays the same, and cursors
    are the same if they spell the same number, in whatever way.  The texts are in the order of the
    values, and a scan begins in front of all of them. -/
theorem texts_agree_with_values :
    (∀ p : PointId, parse? p.text = some p) ∧
    (∀ s (p : PointId), parse? s = some p ↔ Spells s p.val) ∧
    (∀ s n, Spells s n → (0 ≤ n ∧ n < 2 ^ 128) ∧ ∃ p, parse? s = some p ∧ p.val = n) ∧
    (∀ s, Canonical s ↔ ∃ p : PointId, p.text = s) ∧ (∀ p : PointId, p.text.length = 36) ∧
    (∀ name raw page, VectorStore.scrolled name (.ok raw) = .ok page → page.next ≠ none →
      let offset := ScrollRequest.offsetOf (page.next.map text)
      VectorStore.scrolled name (.ok { raw with next := .text offset }) = .ok page) ∧
    (∀ name s t m n, Spells s m → Spells t n → ∃ p q, (Value.text s).cursor name = .ok (some p) ∧
      (Value.text t).cursor name = .ok (some q) ∧ (p.text = q.text ↔ m = n)) ∧
    (∀ p q : PointId, p.text ≤ q.text ↔ p.val ≤ q.val) ∧
    ScrollRequest.offsetOf none = "00000000-0000-0000-0000-000000000000" ∧
    ∀ p : PointId, ScrollRequest.offsetOf none ≤ p.text := by
  refine ⟨parse?_text, fun _ _ => parse?_eq_some_iff, fun _ _ h => ⟨h.bounds, h.exists_parse⟩,
    fun _ => canonical_iff, length_text, fun _ _ _ => scrolled_of_sent, ?_,
    fun _ _ => text_le_text_iff, offsetOf_none, ?_⟩
  · intro name s t m n hs ht
    obtain ⟨p, hp, rfl⟩ := hs.exists_parse
    obtain ⟨q, hq, rfl⟩ := ht.exists_parse
    refine ⟨p, q, cursor_of_parse hp, cursor_of_parse hq, ?_⟩
    rw [text_eq_text_iff, Int.natCast_inj]
  · intro p
    exact text_le_text_iff.mpr (Nat.zero_le p.val)

/-- A spelling with everything that may stand in one gives the same cursor as the canonical text,
    and the page that held it is the same when the cursor comes back. -/
theorem texts_agree_with_values_spelled :
    let s := "urn:uuid:\x7b+0X_0000-00000000000000000000-0_F\u0663\x7d"
    let t := "00000000-0000-0000-0000-0000000000f3"
    Spells s 0xF3 ∧ Spells t 0xF3 ∧ Canonical t ∧ ScrollRequest.offsetOf none ≤ t ∧
      (∃ p q, (Value.text s).cursor "c" = .ok (some p) ∧ (Value.text t).cursor "c" = .ok (some q) ∧
        p.text = q.text) ∧
      ∃ page, VectorStore.scrolled "c" (.ok { next := .text s }) = .ok page ∧
        VectorStore.scrolled "c" (.ok { next := .text t }) = .ok page := by
  intro s t
  obtain ⟨hread, hspells, -, hcanonical, -, hsent, hcursors, -, -, hfirst⟩ :=
    texts_agree_with_values
  let p : PointId := { val := 0xF3 }
  have hp : parse? s = some p := by decide +kernel
  have ht : p.text = t := by decide +kernel
  have hs : Spells s 0xF3 := (hspells s p).mp hp
  have ht' : Spells t 0xF3 := by
    rw [← ht]
    exact (hspells p.text p).mp (hread p)
  obtain ⟨q, q', hq, hq', hsame⟩ := hcursors "c" s t 0xF3 0xF3 hs ht'
  have hreads : RawPage.Reads { next := .text s } { next := some p } :=
    ⟨.nil, Or.inr ⟨p, .text hp, rfl⟩⟩
  have hpage : VectorStore.scrolled "c" (.ok { next := .text s }) = .ok { next := some p } :=
    scrolled_ok_iff.mpr hreads
  have hback := hsent "c" { next := .text s } { next := some p } hpage (Option.some_ne_none p)
  refine ⟨hs, ht', (hcanonical t).mpr ⟨p, ht⟩, ?_, ⟨q, q', hq, hq', hsame.mpr rfl⟩, _, hpage, ?_⟩
  · rw [← ht]
    exact hfirst p
  · rw [← ht]
    exact hback

end PointId

end OrphanSweep
