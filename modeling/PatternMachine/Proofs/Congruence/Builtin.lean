import PatternMachine.Builtin
import PatternMachine.Operator
import PatternMachine.Proofs.Congruence

/-!
# Operators and built-in functions are related to themselves

They look at values and at the store, make values, write to the output and raise
errors, which every congruence respects.
-/

namespace PatternMachine

open Congruence (Relates)

variable {congruence : Congruence}

/-! ## Operators -/

namespace Evaluator

theorem numericOperands_related {sign : String} {left right : Term} :
    congruence.Fixes (numericOperands sign left right) := by
  unfold numericOperands
  split
  · exact .pure
  · exact .raise
  · exact .raise

theorem arithmetic_related
    {sign : String}
    {left right : Term}
    {exactly : Int64 -> Int64 -> Int64}
    {approximately : Float -> Float -> Float} :
    congruence.Fixes (arithmetic sign left right exactly approximately) := by
  refine numericOperands_related.bind fun operands => ?_
  split
  · exact .newInteger
  · exact .newReal

theorem add_related {left right : Term} : congruence.Fixes (add left right) := by
  unfold add
  split
  · exact Relates.display.bind fun _ => Relates.display.bind fun _ => .newText
  · exact Relates.display.bind fun _ => Relates.display.bind fun _ => .newText
  · exact Relates.store.bind fun _ => .newList
  · exact .raise
  · exact arithmetic_related

theorem divide_related {left right : Term} : congruence.Fixes (divide left right) := by
  refine numericOperands_related.bind fun operands => ?_
  split
  · exact .ite .raise (.ite .raise .newInteger)
  · exact .ite .raise .newReal

theorem compareWith_related {accept : Ordering -> Bool} {left right : Term} :
    congruence.Fixes (compareWith accept left right) := by
  have ordered : congruence.Fixes (order left right) := by
    unfold order
    split
    · exact .pure
    · exact .raise
    · exact numericOperands_related.bind fun _ => .pure
  exact ordered.bind fun _ => .pure

theorem negateNumber_related {operand : Term} : congruence.Fixes (negateNumber operand) := by
  cases operand with
  | integer value => exact .newInteger
  | real value => exact .newReal
  | _ => exact .raise

/-- An operator whose answer is read off the store. -/
theorem judge_related {judge : Store -> Bool} :
    congruence.Fixes (Action.store >>= fun store => pure (Term.boolean (judge store))) :=
  Relates.store.bind fun _ => .pure

theorem applyBinary_related {operator : Operator} {left right : Term} :
    congruence.Fixes (applyBinary operator left right) := by
  cases operator with
  | plus => exact add_related
  | minus => exact arithmetic_related
  | times => exact arithmetic_related
  | divide => exact divide_related
  | disjunction => exact judge_related
  | conjunction => exact judge_related
  | equals => exact Relates.equal.bind fun _ => .pure
  | differs => exact Relates.equal.bind fun _ => .pure
  | below => exact compareWith_related
  | atMost => exact compareWith_related
  | above => exact compareWith_related
  | atLeast => exact compareWith_related
  | negate => exact negateNumber_related
  | complement => exact judge_related

theorem applyOperator_related {operator : Operator} {argument : Term} :
    congruence.Fixes (applyOperator operator argument) := by
  unfold applyOperator
  split
  · exact negateNumber_related
  · exact judge_related
  · refine Relates.store.bind fun store => ?_
    split
    · exact applyBinary_related
    · exact .display_raise

end Evaluator

namespace Builtin

theorem formal_related {name : String} : congruence.Fixes (formal name) := by
  refine Relates.lookup?.bind fun found => ?_
  cases found with
  | some value => exact .pure
  | none => exact .raise

theorem textFormal_related {function name : String} :
    congruence.Fixes (textFormal function name) := by
  refine formal_related.bind fun value => ?_
  cases value with
  | text text => exact .pure
  | _ => exact .raise

theorem listFormal_related {function : String} : congruence.Fixes (listFormal function) := by
  refine formal_related.bind fun xs => Relates.store.bind fun store => ?_
  cases store.sequenceElements? xs with
  | some elements => exact .pure
  | none => exact .raise

theorem realFormal_related {function : String} : congruence.Fixes (realFormal function) := by
  refine formal_related.bind fun x => ?_
  cases x.number? with
  | some number => exact .pure
  | none => exact .raise

/-! ## Numbers -/

theorem absolute_related : congruence.Fixes absolute := by
  refine formal_related.bind fun value => ?_
  cases value with
  | integer number => exact .ite .newInteger .pure
  | real number => exact .newReal
  | _ => exact .raise

theorem bestOf_related
    {function : String}
    {better : Float -> Float -> Bool}
    {best : Term}
    {bestValue : Float}
    {elements : List Term} :
    congruence.Fixes (bestOf function better best bestValue elements) := by
  induction elements generalizing best bestValue with
  | nil => exact .pure
  | cons element rest inductionHypothesis =>
      unfold bestOf
      cases element.number? with
      | none => exact .raise
      | some number => exact .ite inductionHypothesis inductionHypothesis

theorem extremum_related {function : String} {better : Float -> Float -> Bool} :
    congruence.Fixes (extremum function better) := by
  refine formal_related.bind fun xs => Relates.store.bind fun store => ?_
  split
  · split
    · exact .raise
    · exact bestOf_related
  · exact .display_raise

theorem squareRoot_related : congruence.Fixes squareRoot := by
  refine realFormal_related.bind fun value => .ite ?_ .newReal
  exact Relates.newReal.bind fun _ => .display_raise

theorem toInteger_related : congruence.Fixes toInteger := by
  refine formal_related.bind fun value => ?_
  cases value with
  | integer number => exact .newInteger
  | boolean truth => exact .newInteger
  | real number => exact .newInteger
  | text text =>
      dsimp only
      cases Number.real? text with
      | some number => exact .newInteger
      | none => exact .raise
  | _ => exact .raise

theorem toReal_related : congruence.Fixes toReal := by
  refine formal_related.bind fun value => ?_
  split
  · split
    · exact .newReal
    · exact .raise
  · split
    · exact .newReal
    · exact .raise

/-! ## Lists -/

theorem sort_related : congruence.Fixes sort := by
  refine listFormal_related.bind fun elements => ?_
  cases sortTerms elements with
  | error message => exact .raise
  | ok sorted => exact .newList

theorem isMember_related : congruence.Fixes isMember :=
  formal_related.bind fun _ => listFormal_related.bind fun _ =>
    Relates.finitely.bind fun _ => .pure

/-! ## Texts and output -/

/-- Writing a formal, however it is written out. -/
theorem printed_related {shape : String -> String} :
    congruence.Fixes
      (formal "x" >>= fun x => Action.display x >>= fun shown =>
        Action.write (shape shown) >>= fun _ => pure Term.none) :=
  formal_related.bind fun _ => Relates.display.bind fun _ => Relates.write.bind fun _ => .pure

theorem length_related : congruence.Fixes length := by
  refine formal_related.bind fun x => Relates.store.bind fun store => ?_
  cases x with
  | object template memory => cases template <;> exact .newInteger
  | list cell => exact .newInteger
  | tuple cell => exact .newInteger
  | pair first second => exact .newInteger
  | text text => exact .newInteger
  | _ => exact .raise

theorem findText_related : congruence.Fixes findText := by
  refine textFormal_related.bind fun text => textFormal_related.bind fun part => ?_
  cases Text.splitFirst? part.toList text.toList with
  | some pieces => exact .newInteger
  | none => exact .newInteger

theorem newTexts_related {texts : List String} : congruence.Fixes (newTexts texts) := by
  induction texts with
  | nil => exact .pure
  | cons text rest inductionHypothesis =>
      exact Relates.newText.bind fun _ => inductionHypothesis.bind fun _ => .pure

theorem explode_related : congruence.Fixes explode :=
  textFormal_related.bind fun _ => textFormal_related.bind fun _ =>
    newTexts_related.bind fun _ => .newList

theorem textElements_related {elements : List Term} :
    congruence.Fixes (textElements elements) := by
  induction elements with
  | nil => exact .pure
  | cons element rest inductionHypothesis =>
      cases element with
      | text text => exact inductionHypothesis.bind fun _ => .pure
      | _ => exact .raise

theorem implode_related : congruence.Fixes implode := by
  refine formal_related.bind fun xs => textFormal_related.bind fun separator => ?_
  refine Relates.store.bind fun store => ?_
  cases store.sequenceElements? xs with
  | some elements => exact textElements_related.bind fun _ => .newText
  | none => exact .raise

theorem digest_related : congruence.Fixes digest := by
  refine formal_related.bind fun data => formal_related.bind fun algorithm => ?_
  cases algorithm with
  | text name =>
      dsimp only
      cases Digest.ofName? name with
      | some function => exact Relates.display.bind fun _ => .newText
      | none => exact .raise
  | _ => exact .raise

end Builtin

/-- Every built-in operation is related to itself. -/
theorem Native.run_related (operation : Native) : congruence.Fixes operation.run := by
  open Builtin in
  cases operation with
  | abs => exact absolute_related
  | ceil => exact realFormal_related.bind fun _ => .newInteger
  | downcase => exact textFormal_related.bind fun _ => .newText
  | explode => exact explode_related
  | floor => exact realFormal_related.bind fun _ => .newInteger
  | hash => exact digest_related
  | implode => exact implode_related
  | index => exact findText_related
  | len => exact length_related
  | max => exact extremum_related
  | member => exact isMember_related
  | min => exact extremum_related
  | print => exact printed_related
  | println => exact printed_related
  | raise => exact formal_related.bind fun _ => congruence.raise _
  | reverse => exact listFormal_related.bind fun _ => .newList
  | sort => exact sort_related
  | sqrt => exact squareRoot_related
  | tointeger => exact toInteger_related
  | toreal => exact toReal_related
  | tostring => exact formal_related.bind fun _ => Relates.display.bind fun _ => .newText
  | trim => exact textFormal_related.bind fun _ => .newText
  | typeof => exact formal_related.bind fun _ => .newText
  | unique => exact listFormal_related.bind fun _ => Relates.finitely.bind fun _ => .newList
  | upcase => exact textFormal_related.bind fun _ => .newText

end PatternMachine
