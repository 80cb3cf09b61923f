import FluentGen.Syntax.Reader
import Mathlib.Tactic.Lemma

/-!
# Readers go forward

A reader leaves a suffix of the tokens that it is given. The combinators keep this, so that it holds
of every rule that is put together from them; the instances here let it be found by going through
the rule.
-/

namespace FluentGen

namespace Token

/-- What follows a closing bracket is a suffix. -/
lemma afterClosing_suffix (depth : Nat) (tokens : List Token) :
    afterClosing depth tokens <:+ tokens := by
  fun_induction afterClosing depth tokens with
  | case1 => exact List.suffix_refl _
  | case3 => exact List.suffix_cons ..
  | case2 _ _ _ ih => exact ih.trans (List.suffix_cons ..)
  | case4 _ _ _ ih => exact ih.trans (List.suffix_cons ..)
  | case5 _ _ _ _ _ _ ih => exact ih.trans (List.suffix_cons ..)

end Token

/-- What is left after an operator is a suffix. -/
lemma Sight.suffix_of_afterOperator? {text : List Char} {tokens rest : List Token}
    (found : afterOperator? text tokens = some rest) : rest <:+ tokens := by
  fun_induction afterOperator? text tokens with
  | case1 tokens =>
    cases found
    exact List.suffix_refl _
  | case2 =>
    cases found
    exact List.suffix_cons ..
  | case4 _ _ _ _ _ _ _ ih => exact (ih found).trans (List.suffix_cons ..)
  | case3 => cases found
  | case5 => cases found
  | case6 => cases found

namespace Reader

/-- A reader takes what it reads off the front. -/
class Forward (reader : Reader) : Prop where
  suffix {scan : Scan} {trees : List Tree} {after : Scan} :
    reader scan = .ok (trees, after) → after.rest <:+ scan.rest

/-- All alternatives of a choice take what they read off the front. -/
class ForwardAll (choices : List Choice) : Prop where
  each : ∀ choice ∈ choices, Forward choice.reader

section

variable {first second reader yes no : Reader}

/-! ## Single trees -/

instance : Forward pass where
  suffix ran := by
    cases ran
    exact List.suffix_refl _

instance (trees : List Tree) : Forward (give trees) where
  suffix ran := by
    cases ran
    exact List.suffix_refl _

instance (message : String) : Forward (fail message) where
  suffix ran := by cases ran

instance (message : String) : Forward (refuse message) where
  suffix ran := by cases ran

instance (text : String) : Forward (symbol text) where
  suffix {scan _ _} ran := by
    rw [symbol] at ran
    cases found : Sight.afterOperator? text.toList scan.rest with
    | none =>
      rw [found] at ran
      cases ran
    | some rest =>
      rw [found] at ran
      cases ran
      exact Sight.suffix_of_afterOperator? found

instance (text : String) : Forward (word text) where
  suffix ran := by
    simp only [word] at ran
    split at ran
    · next tokens =>
      split at ran
      · cases ran
        rw [tokens]
        exact List.suffix_cons ..
      · cases ran
    · cases ran

instance : Forward ident where
  suffix ran := by
    simp only [ident] at ran
    split at ran
    · next tokens =>
      split at ran
      · cases ran
        rw [tokens]
        exact List.suffix_cons ..
      · cases ran
    · cases ran

instance : Forward anyWord where
  suffix ran := by
    simp only [anyWord] at ran
    split at ran
    · next tokens =>
      cases ran
      rw [tokens]
      exact List.suffix_cons ..
    · cases ran

instance : Forward lifetime where
  suffix ran := by
    simp only [lifetime] at ran
    split at ran
    · next tokens =>
      cases ran
      rw [tokens]
      exact (List.suffix_cons ..).trans (List.suffix_cons ..)
    · cases ran

instance : Forward literal where
  suffix ran := by
    simp only [literal] at ran
    split at ran
    · next tokens =>
      cases ran
      rw [tokens]
      exact List.suffix_cons ..
    · next tokens =>
      split at ran
      · cases ran
        rw [tokens]
        exact List.suffix_cons ..
      · cases ran
    · next tokens =>
      split at ran
      · cases ran
        rw [tokens]
        exact (List.suffix_cons ..).trans (List.suffix_cons ..)
      · cases ran
    · cases ran

instance : Forward anyGroup where
  suffix ran := by
    simp only [anyGroup] at ran
    split at ran
    · next tokens =>
      cases ran
      rw [tokens]
      exact (Token.afterClosing_suffix ..).trans (List.suffix_cons ..)
    · cases ran

instance : Forward remainder where
  suffix ran := by
    cases ran
    exact List.drop_suffix ..

/-! ## Readers of readers -/

instance forward_append [Forward first] [Forward second] : Forward (first ++ second) where
  suffix {scan _ _} ran := by
    change append first second scan = _ at ran
    rw [append] at ran
    split at ran
    · next before middle here =>
      split at ran
      · next after last there =>
        cases ran
        exact (Forward.suffix there).trans (Forward.suffix here)
      · cases ran
    · cases ran

instance forward_bind {next : List Tree → Reader} [Forward first] [∀ trees, Forward (next trees)] :
    Forward (first.bind next) where
  suffix {scan _ _} ran := by
    rw [bind] at ran
    split at ran
    · next trees middle here => exact (Forward.suffix ran).trans (Forward.suffix here)
    · cases ran

instance forward_map (change : List Tree → List Tree) [Forward reader] :
    Forward (reader.map change) :=
  inferInstanceAs (Forward (reader.bind fun trees => give (change trees)))

instance forward_node (kind : Kind) [Forward reader] : Forward (node kind reader) :=
  inferInstanceAs (Forward (reader.map fun parts => [.node kind parts]))

instance forward_dropped [Forward reader] : Forward (dropped reader) :=
  inferInstanceAs (Forward (reader.map fun _ => []))

instance forward_asText (test : Kind → Bool) [Forward reader] : Forward (asText test reader) where
  suffix ran := by
    simp only [asText] at ran
    split at ran
    · next here =>
      split at ran
      · cases ran
        exact Forward.suffix here
      · cases ran
        exact Forward.suffix here
    · exact Forward.suffix ran

instance forward_asWritten (kind : Kind) [Forward reader] : Forward (asWritten kind reader) :=
  inferInstanceAs (Forward (asText _ (node kind reader)))

instance forward_choose (test : Scan → Bool) [Forward yes] [Forward no] :
    Forward (choose test yes no) where
  suffix ran := by
    rw [choose] at ran
    split at ran
    · exact Forward.suffix ran
    · exact Forward.suffix ran

instance forward_ifSees (sight : Sight) [Forward reader] : Forward (ifSees sight reader) :=
  inferInstanceAs (Forward (choose _ reader pass))

instance forward_ite (test : Prop) [Decidable test] [Forward yes] [Forward no] :
    Forward (if test then yes else no) := by
  split <;> assumption

instance forward_orElse [Forward first] [Forward second] : Forward (orElse first second) where
  suffix ran := by
    simp only [orElse] at ran
    split at ran
    · next here =>
      cases ran
      exact Forward.suffix here
    · exact Forward.suffix ran

instance forward_within (delimiter : Delimiter) [Forward reader] :
    Forward (within delimiter reader) where
  suffix ran := by
    simp only [within] at ran
    split at ran
    · next rest tokens =>
      rw [tokens]
      refine List.IsSuffix.trans ?_ (List.suffix_cons ..)
      split at ran
      · split at ran
        · next here =>
          have inside := Forward.suffix here
          split at ran
          · next closing =>
            cases ran
            rw [closing] at inside
            exact (List.suffix_cons ..).trans inside
          · cases ran
            exact (Token.afterClosing_suffix ..).trans inside
        · cases ran
      · cases ran
    · cases ran

instance forward_repeatTimes (times : Nat) (done : Scan → Bool) [Forward reader] :
    Forward (repeatTimes times done reader) := by
  induction times with
  | zero => exact inferInstanceAs (Forward pass)
  | succ times ih => exact inferInstanceAs (Forward (choose done pass (reader ++ _)))

instance forward_stepped {steps : Nat → Reader} [∀ times, Forward (steps times)] :
    Forward (stepped steps) where
  suffix {scan _ _} ran := (inferInstance : Forward (steps (scan.size + 1))).suffix ran

instance forward_repeatUntil (done : Scan → Bool) [Forward reader] :
    Forward (repeatUntil done reader) :=
  inferInstanceAs (Forward (stepped _))

instance forward_repeatWhile (more : Scan → Bool) [Forward reader] :
    Forward (repeatWhile more reader) :=
  inferInstanceAs (Forward (repeatUntil _ reader))

instance forward_separated (done : Scan → Bool) [Forward first] [Forward second] :
    Forward (separated done first second) :=
  inferInstanceAs (Forward (repeatUntil _ (second ++ choose done pass first)))

instance forward_sumTimes (times : Nat) (more : Scan → Bool) [Forward reader] :
    Forward (sumTimes times more reader) := by
  induction times with
  | zero => exact inferInstanceAs (Forward pass)
  | succ times ih =>
    exact inferInstanceAs (Forward (reader ++ ifSees _ (symbol "+" ++ choose more _ pass)))

instance forward_strictSum (done : Scan → Bool) [Forward reader] : Forward (strictSum done reader) :=
  inferInstanceAs (Forward (separated done _ reader))

instance forward_sum (more : Scan → Bool) [Forward reader] : Forward (sum more reader) :=
  inferInstanceAs (Forward (stepped _))

instance forward_commas [Forward reader] : Forward (commas reader) :=
  inferInstanceAs (Forward (separated _ _ reader))

/-! ## Choices -/

instance : ForwardAll [] where
  each := nofun

instance forwardAll_cons {choice : Choice} {choices : List Choice} [here : Forward choice.reader]
    [others : ForwardAll choices] : ForwardAll (choice :: choices) where
  each := List.forall_mem_cons.2 ⟨here, others.each⟩

instance forwardAll_append {choices more : List Choice} [ForwardAll choices] [ForwardAll more] :
    ForwardAll (choices ++ more) where
  each choice inside := by
    rcases List.mem_append.1 inside with inside | inside
    · exact ForwardAll.each choice inside
    · exact ForwardAll.each choice inside

instance forwardAll_ite (test : Prop) [Decidable test] {choices more : List Choice}
    [ForwardAll choices] [ForwardAll more] : ForwardAll (if test then choices else more) := by
  split <;> assumption

instance forwardAll_map {sights : List Sight} [Forward reader] :
    ForwardAll (sights.map (Choice.of · reader)) where
  each choice inside := by
    obtain ⟨sight, -, rfl⟩ := List.mem_map.1 inside
    exact inferInstanceAs (Forward reader)

instance forward_of (sight : Sight) [Forward reader] : Forward (Choice.of sight reader).reader :=
  inferInstanceAs (Forward reader)

/-- A reader that is picked is that of an alternative whose sight comes next. -/
lemma exists_of_pick {missed : List String} {choices : List Choice} {look scan : Scan}
    {result : List Tree × Scan} (ran : pick missed choices look scan = .ok result) :
    ∃ choice ∈ choices, look.sees choice.sight = true ∧ choice.reader scan = .ok result := by
  induction choices generalizing missed with
  | nil => cases ran
  | cons choice choices ih =>
    rw [pick] at ran
    split at ran
    · next seen =>
      split at ran
      · exact ⟨choice, List.mem_cons_self, seen, ran⟩
      · obtain ⟨other, inside, rest⟩ := ih ran
        exact ⟨other, List.mem_cons_of_mem _ inside, rest⟩
    · obtain ⟨other, inside, rest⟩ := ih ran
      exact ⟨other, List.mem_cons_of_mem _ inside, rest⟩

instance forward_pick (missed : List String) (choices : List Choice) (look : Scan)
    [ForwardAll choices] : Forward (pick missed choices look) where
  suffix ran := by
    obtain ⟨choice, inside, -, here⟩ := exists_of_pick ran
    have := ForwardAll.each choice inside
    exact Forward.suffix here

instance forward_oneOfAfter (missed : List String) (choices : List Choice) [ForwardAll choices] :
    Forward (oneOfAfter missed choices) where
  suffix {scan _ _} ran := (inferInstance : Forward (pick missed choices scan)).suffix ran

instance forward_oneOf (choices : List Choice) [ForwardAll choices] : Forward (oneOf choices) :=
  inferInstanceAs (Forward (oneOfAfter [] choices))

instance forward_ahead {next : Scan → Reader} [∀ look, Forward (next look)] :
    Forward (ahead first next) where
  suffix ran := by
    simp only [ahead] at ran
    split at ran
    · exact Forward.suffix ran
    · cases ran

end

end Reader

end FluentGen
