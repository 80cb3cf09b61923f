import FluentGen.Proofs.Syntax.Reader

/-!
# What readers yield

A property of all trees that a reader may yield is put together from its parts here
(`Reader.Yields`), one lemma for each combinator, and a successful run is taken apart at them.
-/

namespace FluentGen

namespace Reader

/-- All trees that a reader yields are good. -/
def Yields (good : Tree → Prop) (reader : Reader) : Prop :=
  ∀ ⦃scan trees after⦄, reader scan = .ok (trees, after) → ∀ tree ∈ trees, good tree

section

variable {good : Tree → Prop} {first second reader yes no : Reader} {scan after : Scan}
  {trees : List Tree}

/-- Reading one after the other comes down to what either of them reads. -/
lemma exists_of_append (ran : (first ++ second) scan = .ok (trees, after)) :
    ∃ before middle behind, first scan = .ok (before, middle) ∧
      second middle = .ok (behind, after) ∧ trees = before ++ behind := by
  change append first second scan = _ at ran
  rw [append] at ran
  split at ran
  · next before middle here =>
    split at ran
    · next behind last there =>
      cases ran
      exact ⟨before, middle, behind, here, there, rfl⟩
    · cases ran
  · cases ran

/-- Going on with what was read comes down to both steps. -/
lemma exists_of_bind {next : List Tree → Reader}
    (ran : first.bind next scan = .ok (trees, after)) :
    ∃ found middle, first scan = .ok (found, middle) ∧ next found middle = .ok (trees, after) := by
  rw [bind] at ran
  split at ran
  · next found middle here => exact ⟨found, middle, here, ran⟩
  · cases ran

/-- A node is made of what is read. -/
lemma exists_of_node {kind : Kind} (ran : node kind reader scan = .ok (trees, after)) :
    ∃ parts, reader scan = .ok (parts, after) ∧ trees = [.node kind parts] := by
  obtain ⟨parts, middle, here, there⟩ := exists_of_bind ran
  cases there
  exact ⟨parts, here, rfl⟩

/-- Looking ahead takes nothing. -/
lemma exists_of_ahead {next : Scan → Reader} (ran : ahead first next scan = .ok (trees, after)) :
    ∃ found look, first scan = .ok (found, look) ∧ next look scan = .ok (trees, after) := by
  simp only [ahead] at ran
  split at ran
  · next found look here => exact ⟨found, look, here, ran⟩
  · cases ran

/-- An identifier is the first token. -/
lemma exists_of_ident (ran : ident scan = .ok (trees, after)) :
    ∃ name, scan.rest = .ident name :: after.rest ∧ trees = [.word name] := by
  simp only [ident] at ran
  split at ran
  · next name rest tokens =>
    split at ran
    · cases ran
      exact ⟨name, tokens, rfl⟩
    · cases ran
  · cases ran

/-- Any word is the first token. -/
lemma exists_of_anyWord (ran : anyWord scan = .ok (trees, after)) :
    ∃ name, scan.rest = .ident name :: after.rest ∧ trees = [.word name] := by
  simp only [anyWord] at ran
  split at ran
  · next name rest tokens =>
    cases ran
    exact ⟨name, tokens, rfl⟩
  · cases ran

/-- A word is the first token. -/
lemma eq_of_word {text : String} (ran : word text scan = .ok (trees, after)) :
    trees = [.word (.plain text)] := by
  simp only [word] at ran
  split at ran
  · split at ran
    · next same =>
      cases ran
      rw [same]
    · cases ran
  · cases ran

/-- A bracketed part is made of what is read inside. -/
lemma exists_of_within {delimiter : Delimiter}
    (ran : within delimiter reader scan = .ok (trees, after)) :
    ∃ start parts behind, reader start = .ok (parts, behind) ∧ trees = [.group delimiter parts] := by
  simp only [within] at ran
  split at ran
  · split at ran
    · split at ran
      · next here =>
        split at ran
        · cases ran
          exact ⟨_, _, _, here, rfl⟩
        · cases ran
          exact ⟨_, _, _, here, rfl⟩
      · cases ran
    · cases ran
  · cases ran

/-- What is kept as text is a node of a kind that passes the test, and all else is as it is read. -/
lemma cases_of_asText {test : Kind → Bool} (ran : asText test reader scan = .ok (trees, after)) :
    (∃ kind text, test kind = true ∧ trees = [.node kind [.verbatim text]]) ∨
      reader scan = .ok (trees, after) := by
  simp only [asText] at ran
  split at ran
  · next kind parts last here =>
    split at ran
    · next passes =>
      cases ran
      exact .inl ⟨kind, _, passes, rfl⟩
    · cases ran
      exact .inr here
  · exact .inr ran

/-- Every tree of a repetition is yielded by the reader, somewhere further on. -/
lemma exists_of_repeatTimes [Forward reader] {times : Nat} {done : Scan → Bool}
    (ran : repeatTimes times done reader scan = .ok (trees, after)) {tree : Tree}
    (inside : tree ∈ trees) :
    ∃ here found behind, here.rest <:+ scan.rest ∧ reader here = .ok (found, behind) ∧
      tree ∈ found := by
  induction times generalizing scan trees with
  | zero =>
    cases ran
    cases inside
  | succ times ih =>
    rw [repeatTimes, choose] at ran
    split at ran
    · cases ran
      cases inside
    · obtain ⟨before, middle, behind, here, there, rfl⟩ := exists_of_append ran
      rcases List.mem_append.1 inside with first | later
      · exact ⟨scan, before, middle, List.suffix_refl _, here, first⟩
      · obtain ⟨spot, found, last, further, ran, inside⟩ := ih there later
        exact ⟨spot, found, last, further.trans (Forward.suffix here), ran, inside⟩

namespace Yields

/-- Two readers in a row yield what each of them yields. -/
lemma append (before : first.Yields good) (behind : second.Yields good) :
    (first ++ second).Yields good := by
  intro scan trees after ran tree inside
  obtain ⟨_, _, _, here, there, rfl⟩ := exists_of_append ran
  rcases List.mem_append.1 inside with inside | inside
  · exact before here tree inside
  · exact behind there tree inside

/-- A reader that goes on by what was found yields what it goes on with. -/
lemma bind {next : List Tree → Reader} (each : ∀ found, (next found).Yields good) :
    (first.bind next).Yields good := by
  intro scan trees after ran
  obtain ⟨found, _, -, there⟩ := exists_of_bind ran
  exact each found there

/-- A reader of a node yields this node. -/
lemma node {kind : Kind} (each : ∀ parts, good (.node kind parts)) :
    (Reader.node kind reader).Yields good := by
  intro scan trees after ran tree inside
  obtain ⟨parts, -, rfl⟩ := exists_of_node ran
  cases List.mem_singleton.1 inside
  exact each parts

/-- A choice between two readers yields what both of them yield. -/
lemma choose {test : Scan → Bool} (either : yes.Yields good) (other : no.Yields good) :
    (Reader.choose test yes no).Yields good := by
  intro scan trees after ran
  rw [Reader.choose] at ran
  split at ran
  · exact either ran
  · exact other ran

/-- A reader that has looked ahead yields what it goes on with. -/
lemma ahead {next : Scan → Reader} (each : ∀ look, (next look).Yields good) :
    (Reader.ahead first next).Yields good := by
  intro scan trees after ran
  obtain ⟨_, look, -, there⟩ := exists_of_ahead ran
  exact each look there

/-- One of some choices yields what all of them yield. -/
lemma pick {missed : List String} {choices : List Choice} {look : Scan}
    (each : ∀ choice ∈ choices, choice.reader.Yields good) :
    (Reader.pick missed choices look).Yields good := by
  intro scan trees after ran
  obtain ⟨choice, inside, -, here⟩ := exists_of_pick ran
  exact each choice inside here

/-- So it does if the choice depends on what stands there. -/
lemma oneOf {choices : List Choice} (each : ∀ choice ∈ choices, choice.reader.Yields good) :
    (Reader.oneOf choices).Yields good :=
  fun _ _ _ ran => pick each ran

/-- A reader that gives nothing yields anything. -/
lemma pass : Reader.pass.Yields good := by
  intro scan trees after ran
  cases ran
  exact nofun

/-- Given trees are what is yielded. -/
lemma give (each : ∀ tree ∈ trees, good tree) : (Reader.give trees).Yields good := by
  intro scan trees after ran
  cases ran
  exact each

/-- A symbol is yielded as such. -/
lemma symbol {text : String} (here : good (.symbol text)) : (Reader.symbol text).Yields good := by
  intro scan trees after ran
  rw [Reader.symbol] at ran
  split at ran
  · cases ran
    exact List.forall_mem_singleton.2 here
  · cases ran

/-- A word of the language is yielded as such. -/
lemma word {text : String} (here : good (.word (.plain text))) :
    (Reader.word text).Yields good := by
  intro scan trees after ran
  rw [eq_of_word ran]
  exact List.forall_mem_singleton.2 here

/-- An identifier is yielded as a word. -/
lemma ident (each : ∀ name, good (.word name)) : Reader.ident.Yields good := by
  intro scan trees after ran
  obtain ⟨name, -, rfl⟩ := exists_of_ident ran
  exact List.forall_mem_singleton.2 (each name)

/-- A bracketed part is made of what is yielded inside. -/
lemma within {inner : Tree → Prop} {delimiter : Delimiter} (inside : reader.Yields inner)
    (around : ∀ parts, (∀ part ∈ parts, inner part) → good (.group delimiter parts)) :
    (Reader.within delimiter reader).Yields good := by
  intro scan trees after ran
  obtain ⟨start, parts, behind, here, rfl⟩ := exists_of_within ran
  exact List.forall_mem_singleton.2 (around parts (inside here))

/-- A node is made of what is yielded inside. -/
lemma node_of {inner : Tree → Prop} {kind : Kind} (inside : reader.Yields inner)
    (around : ∀ parts, (∀ part ∈ parts, inner part) → good (.node kind parts)) :
    (Reader.node kind reader).Yields good := by
  intro scan trees after ran
  obtain ⟨parts, here, rfl⟩ := exists_of_node ran
  exact List.forall_mem_singleton.2 (around parts (inside here))

/-- What comes next may depend on what the trees in front of it are known to be. -/
lemma bind_of {inner : Tree → Prop} {next : List Tree → Reader} (before : first.Yields inner)
    (each : ∀ found, (∀ tree ∈ found, inner tree) → (next found).Yields good) :
    (first.bind next).Yields good := by
  intro scan trees after ran
  obtain ⟨found, _, here, there⟩ := exists_of_bind ran
  exact each found (before here) there

/-- A reader with a bound on its steps yields what it yields within any bound. -/
lemma stepped {steps : Nat → Reader} (each : ∀ times, (steps times).Yields good) :
    (Reader.stepped steps).Yields good :=
  fun _ _ _ ran => each _ ran

/-- What is kept as text yields nothing but a node of a kind that passes the test. -/
lemma asText {test : Kind → Bool} (inside : reader.Yields good)
    (kept : ∀ kind text, test kind = true → good (.node kind [.verbatim text])) :
    (Reader.asText test reader).Yields good := by
  intro scan trees after ran
  rcases cases_of_asText ran with ⟨kind, text, passes, rfl⟩ | ran
  · exact List.forall_mem_singleton.2 (kept kind text passes)
  · exact inside ran

/-- A reader that is repeated up to a mark yields what it yields once. -/
lemma repeatUntil {done : Scan → Bool} (each : reader.Yields good) :
    (Reader.repeatUntil done reader).Yields good := by
  have times (count : Nat) : (repeatTimes count done reader).Yields good := by
    induction count with
    | zero =>
      intro scan trees after ran
      cases ran
      exact nofun
    | succ count ih =>
      refine choose (fun scan trees after ran => ?_) (append each ih)
      cases ran
      exact nofun
  intro scan trees after ran
  exact times _ ran

/-- A reader that is used if something is seen yields what it yields always. -/
lemma ifSees {sight : Sight} (each : reader.Yields good) : (Reader.ifSees sight reader).Yields good :=
  choose each pass

/-- One of some choices behind others yields what all of them yield. -/
lemma oneOfAfter {missed : List String} {choices : List Choice}
    (each : ∀ choice ∈ choices, choice.reader.Yields good) :
    (Reader.oneOfAfter missed choices).Yields good :=
  fun _ _ _ ran => pick each ran

/-- A row with commas yields its entries and commas. -/
lemma commas (each : reader.Yields good) (comma : good (.symbol ",")) :
    (Reader.commas reader).Yields good :=
  repeatUntil (append each (choose pass (symbol comma)))

end Yields

end

end Reader

end FluentGen
