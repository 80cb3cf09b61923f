import FluentGen.Text.Letter
import FluentGen.Text.Lowercase
import Mathlib.Data.List.Basic
import Mathlib.Tactic.Lemma

/-!
# Lower case and identifiers

Whatever may begin an identifier is lowered to the beginning of one (`Text.lowercase_letters`). No
lower-case form begins with a capital, and only the underscore has one that begins like it.
-/

namespace FluentGen.Text

/-! ## Runs -/

/-- Where the last member of a run is sent. -/
def CaseRun.lastImage (run : CaseRun) : Nat :=
  run.image + (run.last - run.first)

/--
Lower-case forms are characters behind the capital letters and the underscore, and the letter `k` is
the only one of them that is no character of a larger alphabet.
-/
lemma images_of_mem_lowerRuns : ∀ run ∈ lowerRuns,
    (0x80 ≤ run.image ∨ run.image = 0x6b ∧ run.lastImage = 0x6b) ∧
      (run.lastImage < 0xd800 ∨ 0xdfff < run.image ∧ run.lastImage < 0x110000) := by
  decide +kernel

/-- All members of a run are sent into a range. -/
def CaseRun.landsIn (run : CaseRun) (range : Nat × Nat) : Bool :=
  range.1.ble run.image && run.lastImage.ble range.2

/-- No member of a run is in a range. -/
def CaseRun.avoids (run : CaseRun) (range : Nat × Nat) : Bool :=
  run.last.blt range.1 || range.2.blt run.first

/-- A run with members that may begin identifiers sends all of them to such characters. -/
lemma letters_of_mem_lowerRuns : ∀ run ∈ lowerRuns,
    (startRanges.any run.landsIn || startRanges.all run.avoids) = true :=
  List.all_eq_true.1 (by decide +kernel)

/-- The lower-case form of a character has one of four origins. -/
lemma lowercase_cases (c : Char) :
    (c.toNat < 0x80 ∧ lowercase c = [c.toLower]) ∨ lowercase c = ['i', '\u0307'] ∨
      (0x80 ≤ c.toNat ∧ lowercase c = [c]) ∨
      0x80 ≤ c.toNat ∧ ∃ run ∈ lowerRuns, run.first ≤ c.toNat ∧ c.toNat ≤ run.last ∧
        ∃ d : Char, lowercase c = [d] ∧ d.toNat = run.image + (c.toNat - run.first) := by
  unfold lowercase
  split
  · next ascii => exact .inl ⟨ascii, rfl⟩
  · next high =>
    rw [Nat.not_lt] at high
    split
    · exact .inr (.inl rfl)
    · split
      · next code found =>
        obtain ⟨run, inside, image⟩ := List.exists_of_findSome?_eq_some found
        simp only [CaseRun.imageOf?] at image
        split at image
        · next member =>
          cases image
          obtain ⟨-, valid⟩ := images_of_mem_lowerRuns run inside
          have valid : (run.image + (c.toNat - run.first)).isValidChar := by
            rw [CaseRun.lastImage] at valid
            simp only [Nat.isValidChar]
            omega
          refine .inr (.inr (.inr ⟨high, run, inside, member.1, member.2.1, _, rfl, ?_⟩))
          rw [Char.ofNat, dif_pos valid]
          rfl
        · cases image
      · exact .inr (.inr (.inl ⟨high, rfl⟩))

/-! ## Letters -/

/-- No lower-case form begins with a capital `S`, and only the underscore has one that begins so. -/
lemma lowercase_head (c : Char) :
    ∃ first rest, lowercase c = first :: rest ∧ first ≠ 'S' ∧ (first = '_' → c = '_') := by
  rcases lowercase_cases c with ⟨ascii, lower⟩ | lower | ⟨high, lower⟩ |
    ⟨-, run, inside, -, -, d, lower, image⟩
  · refine ⟨c.toLower, [], lower, ?_⟩
    have table : ∀ code < 0x80, (Char.ofNat code).toLower ≠ 'S' ∧
        ((Char.ofNat code).toLower = '_' → Char.ofNat code = '_') := by
      decide +kernel
    simpa using table c.toNat ascii
  · exact ⟨'i', ['\u0307'], lower, by decide, nofun⟩
  · refine ⟨c, [], lower, ?_, id⟩
    rintro rfl
    exact absurd high (by decide)
  · have low := (images_of_mem_lowerRuns run inside).1
    have apart : ∀ e : Char, e.toNat < 0x6b → d ≠ e := by
      rintro e small rfl
      omega
    exact ⟨d, [], lower, apart 'S' (by decide), fun same => absurd same (apart '_' (by decide))⟩

/-- What may begin an identifier is lowered to what may begin one, and goes on like one. -/
lemma lowercase_letters {c : Char} (begins : startsIdent c = true) :
    ∃ first rest, lowercase c = first :: rest ∧ startsIdent first = true ∧
      ∀ d ∈ rest, continuesIdent d = true := by
  rcases lowercase_cases c with ⟨ascii, lower⟩ | lower | ⟨high, lower⟩ |
    ⟨high, run, inside, first, last, d, lower, image⟩
  · refine ⟨c.toLower, [], lower, ?_, nofun⟩
    have table : ∀ code < 0x80, startsIdent (Char.ofNat code) = true →
        startsIdent (Char.ofNat code).toLower = true := by
      decide +kernel
    simpa using table c.toNat ascii (by simpa using begins)
  · exact ⟨'i', ['\u0307'], lower, by decide, List.all_eq_true.1 (by decide +kernel)⟩
  · exact ⟨c, [], lower, begins, nofun⟩
  · refine ⟨d, [], lower, ?_, nofun⟩
    have letter : inRanges startRanges d.toNat = true := by
      rw [inRanges, List.any_eq_true]
      rcases Bool.or_eq_true_iff.1 (letters_of_mem_lowerRuns run inside) with lands | avoids
      · obtain ⟨range, among, lands⟩ := List.any_eq_true.1 lands
        rw [CaseRun.landsIn, Bool.and_eq_true, Nat.ble_eq, Nat.ble_eq, CaseRun.lastImage] at lands
        refine ⟨range, among, ?_⟩
        rw [Bool.and_eq_true, decide_eq_true_eq, decide_eq_true_eq]
        omega
      · rw [startsIdent, if_neg (by omega), inRanges, List.any_eq_true] at begins
        obtain ⟨range, among, within⟩ := begins
        have apart := List.all_eq_true.1 avoids range among
        rw [CaseRun.avoids, Bool.or_eq_true, Nat.blt_eq, Nat.blt_eq] at apart
        rw [Bool.and_eq_true, decide_eq_true_eq, decide_eq_true_eq] at within
        omega
    rcases (images_of_mem_lowerRuns run inside).1 with far | near
    · rw [startsIdent, if_neg (by omega)]
      exact letter
    · have small : d.toNat = 0x6b := by
        rw [CaseRun.lastImage] at near
        omega
      rw [← Char.ofNat_toNat d, small]
      decide

end FluentGen.Text
