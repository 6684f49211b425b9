import PatternMachine.Builtin
import PatternMachine.Proofs.Lockstep

/-!
# The built-in functions keep step

A built-in function sees the scopes it is called in, the cells and nothing of
the sets of global names.
-/

namespace PatternMachine
namespace Builtin

open PatternMachine.Action (InStep)

variable {base : Nat}

theorem formal_inStep {name : String} : InStep base (formal name) := by
  refine InStep.lookup?.bind fun found => ?_
  cases found with
  | some value => exact .pure
  | none => exact .raise

theorem textFormal_inStep {function name : String} :
    InStep base (textFormal function name) := by
  refine formal_inStep.bind fun value => ?_
  cases value with
  | text text => exact .pure
  | _ => exact .raise

theorem listFormal_inStep {function : String} : InStep base (listFormal function) := by
  refine formal_inStep.bind fun xs => ?_
  refine .store_bind (fun _ _ => by simp) fun store => ?_
  cases store.sequenceElements? xs with
  | some elements => exact .pure
  | none => exact .raise

theorem realFormal_inStep {function : String} : InStep base (realFormal function) := by
  refine formal_inStep.bind fun x => ?_
  cases x.number? with
  | some number => exact .pure
  | none => exact .raise

/-! ## Numbers -/

theorem absolute_inStep : InStep base absolute := by
  refine formal_inStep.bind fun value => ?_
  cases value with
  | integer number => exact .ite .newInteger .pure
  | real number => exact .newReal
  | _ => exact .raise

theorem bestOf_inStep
    {function : String}
    {better : Float -> Float -> Bool}
    {best : Term}
    {bestValue : Float}
    {elements : List Term} :
    InStep base (bestOf function better best bestValue elements) := by
  induction elements generalizing best bestValue with
  | nil => exact .pure
  | cons element rest inductionHypothesis =>
      unfold bestOf
      cases element.number? with
      | none => exact .raise
      | some number => exact .ite inductionHypothesis inductionHypothesis

theorem extremum_inStep
    {function : String}
    {better : Float -> Float -> Bool} :
    InStep base (extremum function better) := by
  refine formal_inStep.bind fun xs => ?_
  refine .store_bind (fun _ _ => by simp) fun store => ?_
  split
  · split
    · exact .raise
    · exact bestOf_inStep
  · exact .display_raise

theorem squareRoot_inStep : InStep base squareRoot := by
  refine realFormal_inStep.bind fun value => ?_
  exact .ite (InStep.newReal.bind fun _ => .display_raise) .newReal

theorem toInteger_inStep : InStep base toInteger := by
  refine formal_inStep.bind fun value => ?_
  cases value with
  | integer number => exact .newInteger
  | boolean truth => exact .newInteger
  | real number => exact .newInteger
  | text text =>
      dsimp only
      cases Number.real? text with
      | some number => exact .newInteger
      | none => exact .raise
  | _ => exact .raise

theorem toReal_inStep : InStep base toReal := by
  refine formal_inStep.bind fun value => ?_
  split
  · split
    · exact .newReal
    · exact .raise
  · split
    · exact .newReal
    · exact .raise

/-! ## Lists -/

theorem sort_inStep : InStep base sort := by
  refine listFormal_inStep.bind fun elements => ?_
  split
  · exact .newList
  · exact .raise

@[simp] theorem isAmong?_withSets (store : Store) (sets : Array (List String)) :
    isAmong? (store.withSets sets) = isAmong? store := by
  funext value elements
  rw [isAmong?, isAmong?, Store.equal?_withSets]

@[simp] theorem keepUnlike?_withSets (store : Store) (sets : Array (List String)) :
    keepUnlike? (store.withSets sets) = keepUnlike? store := by
  funext kept element
  rw [keepUnlike?, keepUnlike?, isAmong?_withSets]

theorem unique_inStep : InStep base unique :=
  listFormal_inStep.bind fun _ =>
    (InStep.finitely fun _ _ => by simp [firstOccurrences?]).bind fun _ => .newList

theorem isMember_inStep : InStep base isMember :=
  formal_inStep.bind fun _ => listFormal_inStep.bind fun _ =>
    (InStep.finitely fun _ _ => by simp).bind fun _ => .pure

/-! ## Texts and output -/

theorem print_inStep : InStep base print :=
  formal_inStep.bind fun _ => InStep.display.bind fun _ => InStep.write.bind fun _ => .pure

theorem printLine_inStep : InStep base printLine :=
  formal_inStep.bind fun _ => InStep.display.bind fun _ => InStep.write.bind fun _ => .pure

theorem length_inStep : InStep base length := by
  refine formal_inStep.bind fun x => ?_
  refine .store_bind (fun _ _ => ?_) fun store => ?_
  · split <;> rfl
  cases x with
  | object template memory => cases template <;> exact .newInteger
  | list cell => exact .newInteger
  | tuple cell => exact .newInteger
  | pair first second => exact .newInteger
  | text text => exact .newInteger
  | _ => exact .raise

/-- A function that makes a text of one formal. -/
theorem textFunction_inStep
    {function name : String}
    {convert : String -> String} :
    InStep base (do Action.newText (convert (← textFormal function name))) :=
  textFormal_inStep.bind fun _ => .newText

theorem findText_inStep : InStep base findText := by
  refine textFormal_inStep.bind fun text => ?_
  refine textFormal_inStep.bind fun part => ?_
  cases Text.splitFirst? part.toList text.toList with
  | some pieces => exact .newInteger
  | none => exact .newInteger

theorem newTexts_inStep {texts : List String} : InStep base (newTexts texts) := by
  induction texts with
  | nil => exact .pure
  | cons text rest inductionHypothesis =>
      exact InStep.newText.bind fun _ => inductionHypothesis.bind fun _ => .pure

theorem explode_inStep : InStep base explode :=
  textFormal_inStep.bind fun _ => textFormal_inStep.bind fun _ =>
    newTexts_inStep.bind fun _ => .newList

theorem textElements_inStep {elements : List Term} : InStep base (textElements elements) := by
  induction elements with
  | nil => exact .pure
  | cons element rest inductionHypothesis =>
      cases element with
      | text text => exact inductionHypothesis.bind fun _ => .pure
      | _ => exact .raise

theorem implode_inStep : InStep base implode := by
  refine formal_inStep.bind fun xs => ?_
  refine textFormal_inStep.bind fun separator => ?_
  refine .store_bind (fun _ _ => by simp) fun store => ?_
  cases store.sequenceElements? xs with
  | some elements => exact textElements_inStep.bind fun _ => .newText
  | none => exact .raise

theorem digest_inStep : InStep base digest := by
  refine formal_inStep.bind fun data => ?_
  refine formal_inStep.bind fun algorithm => ?_
  cases algorithm with
  | text name =>
      dsimp only
      cases Digest.ofName? name with
      | some function => exact InStep.display.bind fun _ => .newText
      | none => exact .raise
  | _ => exact .raise

end Builtin

/-- Every built-in operation keeps step. -/
theorem Native.run_inStep
    {base : Nat}
    (operation : Native) :
    Action.InStep base operation.run := by
  open Builtin in
  cases operation with
  | abs => exact absolute_inStep
  | ceil => exact realFormal_inStep.bind fun _ => .newInteger
  | downcase => exact textFunction_inStep
  | explode => exact explode_inStep
  | floor => exact realFormal_inStep.bind fun _ => .newInteger
  | hash => exact digest_inStep
  | implode => exact implode_inStep
  | index => exact findText_inStep
  | len => exact length_inStep
  | max => exact extremum_inStep
  | member => exact isMember_inStep
  | min => exact extremum_inStep
  | print => exact print_inStep
  | println => exact printLine_inStep
  | raise => exact formal_inStep.bind fun _ => .raisePayload
  | reverse => exact listFormal_inStep.bind fun _ => .newList
  | sort => exact sort_inStep
  | sqrt => exact squareRoot_inStep
  | tointeger => exact toInteger_inStep
  | toreal => exact toReal_inStep
  | tostring => exact formal_inStep.bind fun _ => Action.InStep.display.bind fun _ => .newText
  | trim => exact textFunction_inStep
  | typeof => exact formal_inStep.bind fun _ => .newText
  | unique => exact unique_inStep
  | upcase => exact textFunction_inStep

end PatternMachine
