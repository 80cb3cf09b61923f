import FluentGen.Proofs.Syntax.Reader
import FluentGen.Syntax.Grammar

/-!
# Rules go forward

Every rule of the grammar leaves a suffix of the tokens that it is given, and so does the grammar
of any depth (`Grammar.forward_ofDepth`).
-/

namespace FluentGen

namespace Rules

open Reader

/-! ## Names and attributes -/

instance (text : String) : Forward (optionalWord text) := by
  unfold optionalWord
  infer_instance

instance : Forward optionalColons := by
  unfold optionalColons
  infer_instance

instance : Forward plainSegment := by
  unfold plainSegment
  infer_instance

instance (times : Nat) : Forward (plainSegments times) := by
  induction times with
  | zero => exact inferInstanceAs (Forward pass)
  | succ times ih =>
    unfold plainSegments
    infer_instance

instance : Forward plainPath := by
  unfold plainPath
  infer_instance

instance (path : List Tree) : Forward (callAfter path) := by
  unfold callAfter
  infer_instance

instance : Forward macroCall := by
  unfold macroCall
  infer_instance

/-- The part in parentheses of a restricted visibility is read forward. -/
lemma forward_restriction {scan : Scan} {part : Reader} (found : restriction scan = some part) :
    Forward part := by
  simp only [restriction] at found
  split at found
  · split at found
    · split at found
      · cases found
        infer_instance
      · cases found
    · split at found
      · cases found
        infer_instance
      · cases found
  · cases found

instance : Forward visibility := by
  unfold visibility
  refine @forward_choose _ _ _ (@forward_bind _ _ _ fun start => ⟨fun ran => ?_⟩) _
  split at ran
  · next found =>
    have := forward_restriction found
    exact Forward.suffix ran
  · exact Forward.suffix ran

instance : Forward fieldIndex where
  suffix ran := by
    simp only [fieldIndex] at ran
    split at ran
    · next text rest tokens =>
      rw [tokens]
      cases number : fieldNumber false text with
      | error fault =>
        rw [number] at ran
        cases ran
      | ok value =>
        rw [number] at ran
        cases ran
        exact List.suffix_cons ..
    · next text rest tokens =>
      rw [tokens]
      cases number : fieldNumber true text with
      | error fault =>
        rw [number] at ran
        cases ran
      | ok value =>
        rw [number] at ran
        cases ran
        exact (List.suffix_cons ..).trans (List.suffix_cons ..)
    · cases ran

instance : Forward member := by
  unfold member
  infer_instance

instance : Forward builtin := by
  unfold builtin
  infer_instance

section

variable (read : Grammar) [∀ phrase, Forward (read phrase)]

instance : Forward (meaning read) := by
  unfold meaning
  infer_instance

instance : Forward (outerAttributes read) := by
  unfold outerAttributes
  infer_instance

instance : Forward (innerAttributes read) := by
  unfold innerAttributes
  infer_instance

/-! ## Paths -/

instance : Forward (body read) := by
  unfold body
  infer_instance

instance : Forward (constArgument read) := by
  unfold constArgument
  infer_instance

instance (name : List Tree) : Forward (binding read name) := by
  unfold binding
  infer_instance

instance (name : List Tree) : Forward (constraint read name) := by
  unfold constraint
  infer_instance

instance : Forward (genericArgument read) := by
  unfold genericArgument
  have rest (argument : List Tree) : Forward (
      match argument.head?.bind soleSegment? with
      | some segment =>
        choose (·.sees (.symbol "=")) (binding read segment.parts) <|
        choose (·.sees (.symbol ":")) (constraint read segment.parts) (give argument)
      | none => give argument) := by
    split <;> infer_instance
  infer_instance

instance : Forward (genericArguments read) := by
  unfold genericArguments
  infer_instance

instance (plus : Bool) : Forward (result read plus) := by
  unfold result
  infer_instance

instance (inExpr : Bool) : Forward (segment read inExpr) := by
  unfold segment
  infer_instance

instance (inExpr : Bool) : Forward (argumentPath read inExpr) := by
  unfold argumentPath
  infer_instance

instance (inExpr : Bool) : Forward (qualifiedPath read inExpr) := by
  unfold qualifiedPath
  infer_instance

/-! ## Bounds -/

instance : Forward lifetimeParam := by
  unfold lifetimeParam
  infer_instance

instance : Forward (typeParam read) := by
  unfold typeParam
  infer_instance

instance : Forward (constParam read) := by
  unfold constParam
  infer_instance

instance : Forward (boundParam read) := by
  unfold boundParam
  infer_instance

instance : Forward (binder read) := by
  unfold binder
  infer_instance

instance : Forward (optionalBinder read) := by
  unfold optionalBinder
  infer_instance

instance : Forward (parameters read) := by
  unfold parameters
  infer_instance

instance (times : Nat) : Forward (captures times) := by
  induction times with
  | zero => exact inferInstanceAs (Forward pass)
  | succ times ih =>
    unfold captures
    infer_instance

instance : Forward captureList := by
  unfold captureList
  infer_instance

instance : Forward (callSignature read) := by
  unfold callSignature
  infer_instance

instance (allowed : Bool) : Forward (constMark allowed) := by
  unfold constMark
  infer_instance

instance : Forward (traitPath read) := by
  unfold traitPath
  infer_instance

instance (consts : Bool) : Forward (traitBound read consts) := by
  unfold traitBound
  infer_instance

instance (captures consts : Bool) : Forward (bound read captures consts) := by
  unfold bound
  infer_instance

instance (plus captures consts : Bool) : Forward (bounds read plus captures consts) := by
  unfold bounds
  infer_instance

instance (done : Scan → Bool) : Forward (declaredBounds read done) := by
  unfold declaredBounds
  infer_instance

instance : Forward (condition read) := by
  unfold condition
  infer_instance

instance (times : Nat) : Forward (conditions read times) := by
  induction times with
  | zero => exact inferInstanceAs (Forward pass)
  | succ times ih =>
    unfold conditions
    infer_instance

instance : Forward (whereClause read) := by
  unfold whereClause
  infer_instance

/-! ## Types -/

instance : Forward convention := by
  unfold convention
  infer_instance

instance (isFirst : Bool) : Forward (functionTypeArgument read isFirst) := by
  unfold functionTypeArgument
  infer_instance

instance (times : Nat) (isFirst : Bool) : Forward (functionTypeArguments read times isFirst) := by
  induction times generalizing isFirst with
  | zero => exact inferInstanceAs (Forward pass)
  | succ times ih =>
    unfold functionTypeArguments
    infer_instance

instance : Forward (functionType read) := by
  unfold functionType
  infer_instance

instance : Forward (furtherBounds read) := by
  unfold furtherBounds
  infer_instance

instance (message : String) (bounds : Reader) [Forward bounds] :
    Forward (needsTrait message bounds) := by
  unfold needsTrait
  infer_instance

instance (plus : Bool) : Forward (objectBounds read plus) := by
  unfold objectBounds
  infer_instance

instance : Forward (parenthesised read) := by
  unfold parenthesised
  infer_instance

instance (plus : Bool) : Forward (parenType read plus) := by
  unfold parenType
  have rest (group : List Tree) : Forward (
      match group with
      | [.group .paren [.node .bound parts]] =>
        node (.type .traitObject) (give [.node .bound [.group .paren parts]] ++ furtherBounds read)
      | [.group .paren [type]] =>
        let alone := node (.type .paren) (give group)
        match if plus then asFirstBound? type else none with
        | some first =>
          choose (·.sees (.symbol "+"))
            (node (.type .traitObject) (give [first] ++ furtherBounds read)) alone
        | none => alone
      | _ => node (.type .tuple) (give group)) := by
    split
    · infer_instance
    · dsimp only
      split <;> infer_instance
    · infer_instance
  infer_instance

instance (plus : Bool) (quantified : List Tree) : Forward (pathType read plus quantified) := by
  unfold pathType
  infer_instance

instance (plus : Bool) : Forward (dynType read plus) := by
  unfold dynType
  infer_instance

instance : Forward (bracketType read) := by
  unfold bracketType
  have rest (group : List Tree) : Forward (
      match group with
      | [.group _ [_]] => node (.type .slice) (give group)
      | _ => node (.type .array) (give group)) := by
    split <;> infer_instance
  infer_instance

instance : Forward (pointerType read) := by
  unfold pointerType
  infer_instance

instance : Forward (referenceType read) := by
  unfold referenceType
  infer_instance

instance (plus : Bool) : Forward (implType read plus) := by
  unfold implType
  infer_instance

instance (plus : Bool) : Forward (quantifiedType read plus) := by
  unfold quantifiedType pathWords
  infer_instance

instance (plus : Bool) : Forward (type read plus) := by
  unfold type
  infer_instance

/-! ## Patterns -/

instance : Forward (patterns read) := by
  unfold patterns
  infer_instance

instance : Forward patternRange := by
  unfold patternRange
  infer_instance

instance : Forward (rangeBound read) := by
  unfold rangeBound
  infer_instance

instance (sign : Reader) [Forward sign] : Forward (rangeEnd read sign) := by
  unfold rangeEnd
  infer_instance

instance (lower : List Tree) : Forward (rangeFrom read lower) := by
  unfold rangeFrom
  infer_instance

instance (lower : Reader) [Forward lower] : Forward (boundPattern read lower) := by
  unfold boundPattern
  infer_instance

instance : Forward (dotsPattern read) := by
  unfold dotsPattern
  infer_instance

instance : Forward (fieldPattern read) := by
  unfold fieldPattern
  infer_instance

instance (times : Nat) : Forward (fieldPatterns read times) := by
  induction times with
  | zero => exact inferInstanceAs (Forward pass)
  | succ times ih =>
    unfold fieldPatterns
    infer_instance

instance : Forward (pathPattern read) := by
  unfold pathPattern
  infer_instance

instance : Forward (parenPattern read) := by
  unfold parenPattern
  refine @forward_bind _ _ _ fun group => ?_
  split <;> infer_instance

instance : Forward (slicePattern read) := by
  unfold slicePattern
  infer_instance

instance : Forward (bindingPattern read) := by
  unfold bindingPattern
  infer_instance

instance : Forward (pattern read) := by
  unfold pattern
  infer_instance

/-! ## Operators -/

instance : Forward rangeSign := by
  unfold rangeSign
  infer_instance

instance (braces : Bool) (floor : Precedence) : Forward (rightOperand read braces floor) := by
  unfold rightOperand
  refine @forward_bind _ _ _ fun operand => ?_
  split <;> infer_instance

instance (braces : Bool) : Forward (rangeTail read braces) := by
  unfold rangeTail
  infer_instance

instance : Forward afterCast := by
  unfold afterCast
  infer_instance

instance (braces : Bool) (floor : Precedence) (left : Tree) :
    Forward (operators read braces floor left) := by
  have onward (trees : List Tree) : Forward (
      match trees with
      | [left] => read (.operators braces floor left)
      | other => give other) := by
    split <;> infer_instance
  unfold operators
  cases left.isA (.expr .range) with
  | true => exact inferInstanceAs (Forward (give [left]))
  | false =>
    refine ⟨fun ran => ?_⟩
    simp only [Bool.false_eq_true, ↓reduceIte] at ran
    split at ran
    · split at ran
      · exact Forward.suffix ran
      · split at ran
        · exact Forward.suffix ran
        · exact Forward.suffix ran
    · split at ran
      · exact Forward.suffix ran
      · split at ran
        · exact Forward.suffix ran
        · split at ran
          · exact Forward.suffix ran
          · exact Forward.suffix ran

instance (braces : Bool) (floor : Precedence) (right : Tree) :
    Forward (rightSide read braces floor right) := by
  have onward (trees : List Tree) : Forward (
      match trees with
      | [grown] => read (.rightSide braces floor grown)
      | other => give other) := by
    split <;> infer_instance
  unfold rightSide
  refine @forward_choose _ _ _ ⟨fun ran => ?_⟩ _
  exact Forward.suffix ran

instance (braces : Bool) (atom : Reader) [Forward atom] : Forward (operand read braces atom) := by
  unfold operand
  refine @forward_asText _ _ (@forward_bind _ _ _ fun attributes => ?_)
  refine @forward_choose _ _ _ _ (@forward_choose _ _ _ _ (@forward_bind _ _ _ fun found => ?_))
  split <;> infer_instance

instance : Forward (callArguments read) := by
  unfold callArguments
  infer_instance

instance (base : Tree) : Forward (memberAccess read base) := by
  unfold memberAccess
  infer_instance

instance (base : Tree) : Forward (dotted read base) := by
  -- a number with a point is taken as a whole, or else the member behind it is read
  have fields (isNegative : Bool) (text : String) {scan after : Scan} {trees : List Tree}
      {rest : List Token} (shorter : rest <:+ scan.rest)
      (ran : (if !(Sight.isNumber text && Sight.isFloat text) then memberAccess read base scan else
        match pointFields isNegative base (pointParts text) with
        | .error fault => .error fault
        | .ok (base, false) => .ok ([base], { scan with rest })
        | .ok (base, true) => memberAccess read base { scan with rest }) = .ok (trees, after)) :
      after.rest <:+ scan.rest := by
    split at ran
    · exact Forward.suffix ran
    · split at ran
      · cases ran
      · cases ran
        exact shorter
      · exact (Forward.suffix ran).trans shorter
  refine ⟨fun ran => ?_⟩
  simp only [dotted] at ran
  split at ran
  · next tokens => exact fields _ _ (tokens ▸ List.suffix_cons ..) ran
  · next tokens =>
    exact fields _ _ (tokens ▸ (List.suffix_cons ..).trans (List.suffix_cons ..)) ran
  · exact Forward.suffix ran

instance (left : Tree) : Forward (postfixes read left) := by
  have onward (trees : List Tree) : Forward (
      match trees with
      | [left] => read (.postfixes left)
      | other => give other) := by
    split <;> infer_instance
  unfold postfixes
  infer_instance

/-! ## Expressions -/

instance : Forward (fieldValue read) := by
  unfold fieldValue
  infer_instance

instance (times : Nat) : Forward (fieldValues read times) := by
  induction times with
  | zero => exact inferInstanceAs (Forward pass)
  | succ times ih =>
    unfold fieldValues
    infer_instance

instance (braces : Bool) : Forward (pathExpr read braces) := by
  unfold pathExpr
  infer_instance

instance : Forward (parenExpr read) := by
  unfold parenExpr
  refine @forward_bind _ _ _ fun group => ?_
  split <;> infer_instance

instance : Forward (arrayExpr read) := by
  unfold arrayExpr
  infer_instance

instance : Forward (optionalExpr read) := by
  unfold optionalExpr
  infer_instance

instance (braces : Bool) : Forward (breakExpr read braces) := by
  unfold breakExpr
  infer_instance

instance (braces : Bool) : Forward (letExpr read braces) := by
  have rest (operand : List Tree) : Forward (
      match operand with
      | [operand] => read (.operators braces .compare operand)
      | other => give other) := by
    split <;> infer_instance
  unfold letExpr
  infer_instance

instance : Forward (block read) := by
  unfold block
  infer_instance

instance : Forward (conditional read) := by
  unfold conditional
  infer_instance

instance : Forward (arm read) := by
  unfold arm
  infer_instance

instance : Forward (matchExpr read) := by
  unfold matchExpr
  infer_instance

instance (label : List Tree) : Forward (loopExpr read label) := by
  unfold loopExpr
  infer_instance

instance (label : List Tree) : Forward (whileExpr read label) := by
  unfold whileExpr
  infer_instance

instance (label : List Tree) : Forward (forExpr read label) := by
  unfold forExpr
  infer_instance

instance (label : List Tree) : Forward (blockExpr read label) := by
  unfold blockExpr
  infer_instance

instance : Forward (labelled read) := by
  unfold labelled
  infer_instance

instance : Forward (closureArgument read) := by
  unfold closureArgument
  infer_instance

instance (braces : Bool) : Forward (closure read braces) := by
  unfold closure
  infer_instance

instance : Forward (asyncExpr read) := by
  unfold asyncExpr
  infer_instance

instance (braces : Bool) : Forward (atom read braces) := by
  unfold atom
  infer_instance

/-! ## Declarations -/

instance (region : Region) (kind : ItemKind) (isUsual : Bool) (reader : Reader) [Forward reader] :
    Forward (declaration region kind isUsual reader) := by
  unfold declaration
  infer_instance

instance (fields : Reader) [Forward fields] : Forward (namedField read fields) := by
  unfold namedField
  infer_instance

instance (times : Nat) : Forward (nestedFields read times) := by
  induction times with
  | zero => exact inferInstanceAs (Forward pass)
  | succ times ih =>
    unfold nestedFields
    infer_instance

instance : Forward (namedFields read) := by
  unfold namedFields
  infer_instance

instance : Forward (tupleFields read) := by
  unfold tupleFields
  infer_instance

instance : Forward (variant read) := by
  unfold variant
  infer_instance

instance : Forward (structBody read) := by
  unfold structBody
  infer_instance

instance (introduction : String) : Forward (header read introduction) := by
  unfold header
  infer_instance

instance (start : List Tree) : Forward (structRest read start) := by
  unfold structRest
  infer_instance

instance (start : List Tree) : Forward (enumRest read start) := by
  unfold enumRest
  infer_instance

instance (start : List Tree) : Forward (unionRest read start) := by
  unfold unionRest
  infer_instance

instance : Forward (dataItem read) := by
  unfold dataItem
  infer_instance

instance : Forward (receiver read) := by
  unfold receiver
  infer_instance

instance : Forward variadic := by
  unfold variadic
  infer_instance

instance (times : Nat) (isFirst hasReceiver : Bool) :
    Forward (functionArguments read times isFirst hasReceiver) := by
  induction times generalizing isFirst hasReceiver with
  | zero => exact inferInstanceAs (Forward pass)
  | succ times ih =>
    unfold functionArguments
    infer_instance

instance : Forward functionMarks := by
  unfold functionMarks
  infer_instance

instance : Forward foreignMarks := by
  unfold foreignMarks
  infer_instance

instance : Forward (functionHead read) := by
  unfold functionHead
  infer_instance

instance (region : Region) (start : List Tree) : Forward (functionRest read region start) := by
  unfold functionRest
  infer_instance

instance (fromRoot : Bool) : Forward (useTree read fromRoot) := by
  unfold useTree
  infer_instance

instance (attributes : List Tree) : Forward (useItem read attributes) := by
  unfold useItem
  infer_instance

instance (attributes : List Tree) : Forward (staticItem read attributes) := by
  unfold staticItem
  infer_instance

instance (region : Region) (isUsual : Bool) (start : List Tree) :
    Forward (constRest read region isUsual start) := by
  unfold constRest
  infer_instance

instance (attributes : List Tree) : Forward (crateItem attributes) := by
  unfold crateItem
  infer_instance

instance (attributes : List Tree) : Forward (foreignBlock read attributes) := by
  unfold foreignBlock
  infer_instance

instance (attributes : List Tree) : Forward (moduleItem read attributes) := by
  unfold moduleItem
  infer_instance

instance (region : Region) (isUsual : Bool) (start : List Tree) :
    Forward (aliasRest read region isUsual start) := by
  unfold aliasRest
  infer_instance

instance : Forward (traitRest read) := by
  unfold traitRest
  infer_instance

instance (attributes : List Tree) : Forward (traitItem read attributes) := by
  unfold traitItem
  infer_instance

instance (attributes : List Tree) : Forward (traitOrAlias read attributes) := by
  unfold traitOrAlias
  infer_instance

instance (attributes : List Tree) : Forward (implBlock read attributes) := by
  unfold implBlock
  infer_instance

instance (attributes : List Tree) : Forward (macroItem attributes) := by
  unfold macroItem
  infer_instance

instance (attributes : List Tree) (name : Reader) [Forward name] :
    Forward (macroCallItem attributes name) := by
  unfold macroCallItem
  infer_instance

instance (look : Scan) (call : Reader) [Forward call] : ForwardAll (callChoices look call) := by
  unfold callChoices
  split <;> infer_instance

instance (attributes : List Tree) : Forward (unsafeItem read attributes) := by
  unfold unsafeItem
  infer_instance

instance (attributes : List Tree) : Forward (externItem read attributes) := by
  unfold externItem
  infer_instance

-- an item has many alternatives
set_option synthInstance.maxSize 400 in
instance (attributes : List Tree) : Forward (itemRest read attributes) := by
  unfold itemRest
  dsimp only
  infer_instance

instance : Forward (item read) := by
  unfold item
  infer_instance

instance (start : List Tree) : Forward (foreignFunction read start) := by
  unfold foreignFunction
  dsimp only
  infer_instance

instance (start : List Tree) : Forward (foreignStatic read start) := by
  unfold foreignStatic
  infer_instance

set_option synthInstance.maxSize 400 in
instance : Forward (foreignItem read) := by
  unfold foreignItem
  dsimp only
  infer_instance

set_option synthInstance.maxSize 400 in
instance : Forward (traitMember read) := by
  have function (isUsual : Bool) (start : List Tree) : Forward (
      declaration .traitBody .function isUsual (give start ++ functionMarks ++ functionHead read ++
        oneOf [.of (.group .brace) (body read), .of (.symbol ";") (symbol ";")])) :=
    inferInstance
  unfold traitMember
  dsimp only
  infer_instance

set_option synthInstance.maxSize 400 in
instance : Forward (implMember read) := by
  unfold implMember
  dsimp only
  infer_instance

instance : Forward (file read) := by
  unfold file
  infer_instance

/-! ## Statements -/

instance (attributes : List Tree) : Forward (letStatement read attributes) := by
  unfold letStatement
  dsimp only
  infer_instance

instance : Forward (statementExpr read) := by
  have onward (attributes trees : List Tree) : Forward (
      match trees.map (withAttributes attributes) with
      | [left] => read (.operators true .lowest left)
      | other => give other) := by
    split <;> infer_instance
  have behind (attributes trees : List Tree) : Forward (
      match trees with
      | [found] => (read (.postfixes found)).bind fun trees =>
        match trees.map (withAttributes attributes) with
        | [left] => read (.operators true .lowest left)
        | other => give other
      | other => give other) := by
    split <;> infer_instance
  unfold statementExpr
  dsimp only
  infer_instance

instance (attributes : List Tree) : Forward (exprStatement read attributes) := by
  unfold exprStatement
  dsimp only
  infer_instance

instance : Forward (statement read) := by
  unfold statement
  dsimp only
  infer_instance

instance : Forward (statements read) := by
  unfold statements
  dsimp only
  infer_instance

end

end Rules

open Reader

/-- The rules are read forward if the phrases inside them are. -/
instance Grammar.forward_rule (read : Grammar) [∀ phrase, Forward (read phrase)] (phrase : Phrase) :
    Forward (read.rule phrase) := by
  cases phrase with
  | expr braces =>
    refine @forward_bind _ _ _ fun operand => ?_
    split <;> infer_instance
  | _ =>
    unfold Grammar.rule
    infer_instance

/-- Phrases of any depth are read forward. -/
instance Grammar.forward_ofDepth (depth : Nat) (phrase : Phrase) :
    Forward (Grammar.ofDepth depth phrase) := by
  induction depth generalizing phrase with
  | zero => exact inferInstanceAs (Forward (fail _))
  | succ depth ih => exact forward_rule _ phrase

end FluentGen
