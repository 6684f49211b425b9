import PatternMachine.Builtin
import PatternMachine.Proofs.Careful
import PatternMachine.Proofs.Lawful.Builtin

/-!
# The built-in functions are careful

The formals of a built-in function are bound to data, and it makes data of them.
-/

namespace PatternMachine
namespace Builtin

open PatternMachine.Action (Careful Foretold YieldsData)

variable {quoting : Bool} {ledger : Ledger}

theorem formal_careful {name : String} : YieldsData quoting ledger (formal name) := by
  refine Foretold.lookup?.bind fun _ found _ data => ?_
  cases found with
  | some value => exact .pureData (data value rfl)
  | none => exact .raise

theorem textFormal_careful {function name : String} :
    Careful quoting ledger (textFormal function name) fun _ _ => True := by
  refine formal_careful.bind fun _ value _ _ => ?_
  cases value with
  | text text => exact .pure fun _ _ => trivial
  | _ => exact .raise

theorem listFormal_careful {function : String} :
    Careful quoting ledger (listFormal function) fun final elements =>
      ∀ element ∈ elements, element.IsData quoting final := by
  refine formal_careful.bind fun _ xs _ data => ?_
  refine .store_bind fun _ store grows sound => ?_
  cases found : store.sequenceElements? xs with
  | some elements =>
      exact .pure fun _ lastGrows element inside =>
        (sound.sequenceElements (data.mono grows) found element inside).mono lastGrows
  | none => exact .raise

theorem realFormal_careful {function : String} :
    Careful quoting ledger (realFormal function) fun _ _ => True := by
  refine formal_careful.bind fun _ x _ _ => ?_
  cases x.number? with
  | some number => exact .pure fun _ _ => trivial
  | none => exact .raise

/-! ## Numbers -/

theorem absolute_careful : YieldsData quoting ledger absolute := by
  refine formal_careful.bind fun _ value _ _ => ?_
  cases value with
  | integer number => exact .ite (fun _ => .newInteger) fun _ => .pureData trivial
  | real number => exact .newReal
  | _ => exact .raise

theorem bestOf_careful
    {function : String}
    {better : Float -> Float -> Bool}
    {best : Term}
    {bestValue : Float}
    {elements : List Term}
    (bestData : best.IsData quoting ledger)
    (data : ∀ element ∈ elements, element.IsData quoting ledger) :
    YieldsData quoting ledger (bestOf function better best bestValue elements) := by
  induction elements generalizing best bestValue with
  | nil => exact .pureData bestData
  | cons element rest inductionHypothesis =>
      obtain ⟨elementData, restData⟩ := List.forall_mem_cons.mp data
      unfold bestOf
      cases element.number? with
      | none => exact .raise
      | some number =>
          exact .ite (fun _ => inductionHypothesis elementData restData) fun _ =>
            inductionHypothesis bestData restData

theorem extremum_careful
    {function : String}
    {better : Float -> Float -> Bool} :
    YieldsData quoting ledger (extremum function better) := by
  refine formal_careful.bind fun _ xs _ data => ?_
  refine .store_bind fun _ store grows sound => ?_
  split
  · rename_i first rest found
    have elementsData := sound.sequenceElements (data.mono grows) found
    obtain ⟨firstData, restData⟩ := List.forall_mem_cons.mp elementsData
    split
    · exact .raise
    · exact bestOf_careful firstData restData
  · exact .display_raise

theorem squareRoot_careful : YieldsData quoting ledger squareRoot := by
  refine realFormal_careful.bind fun _ value _ _ => ?_
  refine .ite (fun _ => ?_) fun _ => .newReal
  exact Foretold.newReal.bind fun _ _ _ _ => .display_raise

theorem toInteger_careful : YieldsData quoting ledger toInteger := by
  refine formal_careful.bind fun _ value _ _ => ?_
  cases value with
  | integer number => exact .newInteger
  | boolean truth => exact .newInteger
  | real number => exact .newInteger
  | text text =>
      dsimp only
      cases Number.real? text with
      | some number => exact .newInteger
      | none => exact .raise
  | _ => exact .raise

theorem toReal_careful : YieldsData quoting ledger toReal := by
  refine formal_careful.bind fun _ value _ _ => ?_
  split
  · split
    · exact .newReal
    · exact .raise
  · split
    · exact .newReal
    · exact .raise

/-! ## Lists -/

theorem sort_careful : YieldsData quoting ledger sort := by
  refine listFormal_careful.bind fun _ elements _ data => ?_
  cases done : sortTerms elements with
  | error message => exact .raise
  | ok sorted =>
      refine .newList fun element member => ?_
      exact data element ((sortTerms_perm done).mem_iff.mp member)

theorem unique_careful : YieldsData quoting ledger unique := by
  refine listFormal_careful.bind fun known elements _ data => ?_
  have kept : Careful quoting known
      (Action.finitely fun store => firstOccurrences? store elements)
      fun later kept => ∀ element ∈ kept, element.IsData quoting later :=
    .finitely fun _ _ grows _ _ found element member =>
      (data element (mem_of_firstOccurrences? found member)).mono grows
  exact kept.bind fun _ _ _ keptData => .newList keptData

theorem reverse_careful : YieldsData quoting ledger reverse :=
  listFormal_careful.bind fun _ _ _ data => .newList (by simpa using data)

theorem isMember_careful : YieldsData quoting ledger isMember :=
  formal_careful.bind fun _ _ _ _ => listFormal_careful.bind fun _ _ _ _ =>
    Foretold.look.bind fun _ _ _ _ => .pureData trivial

/-! ## Texts and output -/

theorem print_careful : YieldsData quoting ledger print :=
  formal_careful.bind fun _ _ _ _ => Foretold.display.bind fun _ _ _ _ =>
    Foretold.write.bind fun _ _ _ _ => .pureData trivial

theorem printLine_careful : YieldsData quoting ledger printLine :=
  formal_careful.bind fun _ _ _ _ => Foretold.display.bind fun _ _ _ _ =>
    Foretold.write.bind fun _ _ _ _ => .pureData trivial

/-- A value that is raised is data. -/
theorem raiseValue_careful : YieldsData quoting ledger raiseValue :=
  formal_careful.bind fun _ _ _ data later _ grows sound =>
    ⟨later, .refl sound, data.mono grows, fun _ _ => rfl⟩

theorem typeOf_careful : YieldsData quoting ledger typeOf :=
  formal_careful.bind fun _ _ _ _ => .newText

theorem toText_careful : YieldsData quoting ledger toText :=
  formal_careful.bind fun _ _ _ _ => Foretold.display.bind fun _ _ _ _ => .newText

theorem length_careful : YieldsData quoting ledger length := by
  refine formal_careful.bind fun _ x _ _ => ?_
  refine .store_bind fun _ store _ _ => ?_
  cases x with
  | object template memory => cases template <;> exact .newInteger
  | list cell => exact .newInteger
  | tuple cell => exact .newInteger
  | pair first second => exact .newInteger
  | text text => exact .newInteger
  | _ => exact .raise

/-- A function that makes a text of one formal. -/
theorem textFunction_careful
    {function name : String}
    {convert : String -> String} :
    YieldsData quoting ledger (do Action.newText (convert (← textFormal function name))) :=
  textFormal_careful.bind fun _ _ _ _ => .newText

theorem findText_careful : YieldsData quoting ledger findText := by
  refine textFormal_careful.bind fun _ text _ _ => ?_
  refine textFormal_careful.bind fun _ part _ _ => ?_
  cases Text.splitFirst? part.toList text.toList with
  | some pieces => exact .newInteger
  | none => exact .newInteger

theorem newTexts_careful {texts : List String} :
    Careful quoting ledger (newTexts texts) fun final terms =>
      ∀ term ∈ terms, term.IsData quoting final := by
  induction texts generalizing ledger with
  | nil => exact .pure fun _ _ => by simp
  | cons text rest inductionHypothesis =>
      refine Foretold.newText.bind fun _ term _ termData => ?_
      refine inductionHypothesis.bind fun _ terms grows termsData => ?_
      exact .pure fun _ lastGrows => List.forall_mem_cons.mpr
        ⟨(termData.mono grows).mono lastGrows,
          fun other inside => (termsData other inside).mono lastGrows⟩

theorem explode_careful : YieldsData quoting ledger explode :=
  textFormal_careful.bind fun _ _ _ _ => textFormal_careful.bind fun _ _ _ _ =>
    newTexts_careful.bind fun _ _ _ data => .newList data

theorem textElements_careful {elements : List Term} :
    Careful quoting ledger (textElements elements) fun _ _ => True := by
  induction elements generalizing ledger with
  | nil => exact .pure fun _ _ => trivial
  | cons element rest inductionHypothesis =>
      cases element with
      | text text => exact inductionHypothesis.bind fun _ _ _ _ => .pure fun _ _ => trivial
      | _ => exact .raise

theorem implode_careful : YieldsData quoting ledger implode := by
  refine formal_careful.bind fun _ xs _ _ => ?_
  refine textFormal_careful.bind fun _ separator _ _ => ?_
  refine .store_bind fun _ store _ _ => ?_
  cases store.sequenceElements? xs with
  | some elements => exact textElements_careful.bind fun _ _ _ _ => .newText
  | none => exact .raise

theorem digest_careful : YieldsData quoting ledger digest := by
  refine formal_careful.bind fun _ data _ _ => ?_
  refine formal_careful.bind fun _ algorithm _ _ => ?_
  cases algorithm with
  | text name =>
      dsimp only
      cases Digest.ofName? name with
      | some function => exact Foretold.display.bind fun _ _ _ _ => .newText
      | none => exact .raise
  | _ => exact .raise

end Builtin

/-- Every built-in operation is careful. -/
theorem Native.run_careful
    {quoting : Bool}
    {ledger : Ledger}
    (operation : Native) :
    Action.YieldsData quoting ledger operation.run := by
  open Builtin in
  cases operation with
  | abs => exact absolute_careful
  | ceil => exact realFormal_careful.bind fun _ _ _ _ => .newInteger
  | downcase => exact textFunction_careful
  | explode => exact explode_careful
  | floor => exact realFormal_careful.bind fun _ _ _ _ => .newInteger
  | hash => exact digest_careful
  | implode => exact implode_careful
  | index => exact findText_careful
  | len => exact length_careful
  | max => exact extremum_careful
  | member => exact isMember_careful
  | min => exact extremum_careful
  | print => exact print_careful
  | println => exact printLine_careful
  | raise => exact raiseValue_careful
  | reverse => exact reverse_careful
  | sort => exact sort_careful
  | sqrt => exact squareRoot_careful
  | tointeger => exact toInteger_careful
  | toreal => exact toReal_careful
  | tostring => exact toText_careful
  | trim => exact textFunction_careful
  | typeof => exact typeOf_careful
  | unique => exact unique_careful
  | upcase => exact textFunction_careful

end PatternMachine
