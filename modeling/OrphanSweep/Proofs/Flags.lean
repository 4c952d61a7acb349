import Mathlib
import OrphanSweep.Proofs.Trimming
import OrphanSweep.Settings

/-! # What a flag says

    A flag says yes by one of four words, with its letters in either case and with blanks around it,
    and by no other text (`isYes_iff`).  A character that is made small is a small letter exactly if
    it is this letter in one of its two cases (`toLower_eq_iff`), and no letter of the words is blank
    in either. -/

namespace OrphanSweep.Settings

/-- A character that is a letter in one of its two cases. -/
def SameLetter (c letter : Char) : Prop := c = letter ∨ c = letter.toUpper

/-- A text that says yes: a word for yes with its letters in either case and blanks around it. -/
def Affirms (s : String) : Prop :=
  ∃ word ∈ yesWords, ∃ before body after, s.toList = before ++ body ++ after ∧
    Text.Padding Text.isBlank before ∧ List.Forall₂ SameLetter body word.toList ∧
    Text.Padding Text.isBlank after

/-! ## Letters -/

/-- A character is its small form in one of the two cases. -/
theorem sameLetter_toLower (c : Char) : SameLetter c c.toLower := by
  by_cases hupper : c.isUpper
  · refine Or.inr ?_
    rw [Char.toUpper_toLower_eq_toUpper,
      Char.toUpper_eq_of_not_isLower (Char.not_isLower_of_isUpper hupper)]
  · exact Or.inl (Char.toLower_eq_of_not_isUpper hupper).symm

theorem toLower_eq_iff {c letter : Char} (hsmall : letter.toLower = letter) :
    c.toLower = letter ↔ SameLetter c letter := by
  constructor
  · rintro rfl
    exact sameLetter_toLower c
  · rintro (rfl | rfl)
    · exact hsmall
    · rw [Char.toLower_toUpper_eq_toLower, hsmall]

/-- Made small, a text is a word of small letters exactly if it has these letters. -/
theorem map_toLower_eq_iff {body word : List Char}
    (hsmall : ∀ letter ∈ word, letter.toLower = letter) :
    body.map Char.toLower = word ↔ List.Forall₂ SameLetter body word := by
  induction body generalizing word with
  | nil => rw [List.map_nil, List.forall₂_nil_left_iff, eq_comm]
  | cons c body ih =>
      cases word with
      | nil => simp
      | cons letter word =>
          obtain ⟨hletter, hword⟩ := List.forall_mem_cons.mp hsmall
          rw [List.map_cons, List.cons.injEq, List.forall₂_cons, toLower_eq_iff hletter, ih hword]

/-- A text with letters that are blank in neither case has no blank. -/
theorem isBlank_of_sameLetter {body word : List Char} (h : List.Forall₂ SameLetter body word)
    (hword : ∀ letter ∈ word, Text.isBlank letter = false ∧ Text.isBlank letter.toUpper = false) :
    ∀ c ∈ body, Text.isBlank c = false := by
  induction h with
  | nil => exact List.forall_mem_nil _
  | cons hsame _ ih =>
      obtain ⟨⟨hsmall, hgreat⟩, hrest⟩ := List.forall_mem_cons.mp hword
      refine List.forall_mem_cons.mpr ⟨?_, ih hrest⟩
      rcases hsame with rfl | rfl
      · exact hsmall
      · exact hgreat

/-- The letters of the words for yes are small, and blank in neither case. -/
theorem letters_of_yesWords : ∀ word ∈ yesWords, ∀ letter ∈ word.toList,
    letter.toLower = letter ∧ Text.isBlank letter = false ∧
      Text.isBlank letter.toUpper = false := by
  -- a search for an instance could find one that goes through all characters
  have hall : yesWords.all (fun word => word.toList.all fun letter =>
      letter.toLower = letter ∧ Text.isBlank letter = false ∧
        Text.isBlank letter.toUpper = false) = true := by
    decide +kernel
  simpa only [List.all_eq_true, decide_eq_true_eq] using hall

/-! ## Flags -/

/-- **A flag is set exactly if it says yes.** -/
theorem isYes_iff {s : String} : isYes s = true ↔ Affirms s := by
  rw [isYes, List.contains_iff_mem]
  constructor
  · intro hword
    obtain ⟨before, after, hbefore, hafter, hs⟩ := Text.exists_padding Text.isBlank s.toList
    refine ⟨_, hword, before, _, after, hs, hbefore, ?_, hafter⟩
    rw [← map_toLower_eq_iff fun letter h => (letters_of_yesWords _ hword letter h).1,
      String.toList_ofList]
    rfl
  · rintro ⟨word, hword, before, body, after, hs, hbefore, hbody, hafter⟩
    have hbare := Text.bare_of_forall (isBlank_of_sameLetter hbody fun letter h =>
      (letters_of_yesWords word hword letter h).2)
    have hsmall := (map_toLower_eq_iff fun letter h =>
      (letters_of_yesWords word hword letter h).1).mpr hbody
    rwa [Text.trim, hs, Text.trimBy_padded hbefore hbare hafter, hsmall, String.ofList_toList]

instance : DecidablePred Affirms := fun _ => decidable_of_iff _ isYes_iff

example : Affirms "\t yEs\n" ∧ ¬ Affirms "yes!" ∧ ¬ Affirms "" := by decide +kernel

end OrphanSweep.Settings
