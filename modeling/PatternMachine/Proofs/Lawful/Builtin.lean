import PatternMachine.Builtin
import PatternMachine.Proofs.Lawful
import PatternMachine.Proofs.Sorting

/-!
# The built-in functions are lawful

A built-in function looks its formals up, makes a value of them and may write
to the output. It binds no name and opens no scope.
-/

namespace PatternMachine
namespace Builtin

open PatternMachine.Action (Lawful)

variable {property : StackProperty}

theorem formal_lawful {name : String} :
    Lawful property (formal name) (Term.Respects property) := by
  refine Lawful.lookup?.bind fun found respects => ?_
  cases found with
  | some value => exact .pure (respects value rfl)
  | none => exact .raise

theorem textFormal_lawful {function name : String} :
    Lawful property (textFormal function name) fun _ => True := by
  refine formal_lawful.bind fun value _ => ?_
  cases value with
  | text text => exact .pure trivial
  | _ => exact .raise

theorem listFormal_lawful {function : String} :
    Lawful property (listFormal function) fun elements =>
      ∀ element ∈ elements, element.Respects property := by
  refine formal_lawful.bind fun xs _ => ?_
  refine Lawful.store.bind fun store respects => ?_
  cases found : store.sequenceElements? xs with
  | some elements => exact .pure (respects.sequenceElements found)
  | none => exact .raise

theorem realFormal_lawful {function : String} :
    Lawful property (realFormal function) fun _ => True := by
  refine formal_lawful.bind fun x _ => ?_
  cases x.number? with
  | some number => exact .pure trivial
  | none => exact .raise

/-! ## Numbers -/

theorem absolute_lawful : Lawful property absolute (Term.Respects property) := by
  refine formal_lawful.bind fun value _ => ?_
  cases value with
  | integer number => exact .ite (fun _ => .newInteger) (fun _ => .pure trivial)
  | real number => exact .newReal
  | _ => exact .raise

theorem bestOf_lawful
    {function : String}
    {better : Float -> Float -> Bool}
    {best : Term}
    {bestValue : Float}
    {elements : List Term}
    (bestRespects : best.Respects property)
    (respects : ∀ element ∈ elements, element.Respects property) :
    Lawful property (bestOf function better best bestValue elements)
      (Term.Respects property) := by
  induction elements generalizing best bestValue with
  | nil => exact .pure bestRespects
  | cons element rest inductionHypothesis =>
      obtain ⟨elementRespects, restRespects⟩ := List.forall_mem_cons.mp respects
      unfold bestOf
      cases element.number? with
      | none => exact .raise
      | some number =>
          exact .ite (fun _ => inductionHypothesis elementRespects restRespects)
            (fun _ => inductionHypothesis bestRespects restRespects)

theorem extremum_lawful
    {function : String}
    {better : Float -> Float -> Bool} :
    Lawful property (extremum function better) (Term.Respects property) := by
  refine formal_lawful.bind fun xs _ => ?_
  refine Lawful.store.bind fun store respects => ?_
  cases found : store.sequenceElements? xs with
  | none => exact Lawful.display.bind_raise
  | some elements =>
      have elementsRespect := respects.sequenceElements found
      cases elements with
      | nil => exact Lawful.display.bind_raise
      | cons first rest =>
          obtain ⟨firstRespects, restRespects⟩ := List.forall_mem_cons.mp elementsRespect
          dsimp only
          cases first.number? with
          | none => exact .raise
          | some number => exact bestOf_lawful firstRespects restRespects

theorem squareRoot_lawful : Lawful property squareRoot (Term.Respects property) := by
  refine realFormal_lawful.bind fun value _ => ?_
  refine .ite (fun _ => ?_) (fun _ => .newReal)
  exact Lawful.newReal.bind fun _ _ => Lawful.display.bind_raise

theorem toInteger_lawful : Lawful property toInteger (Term.Respects property) := by
  refine formal_lawful.bind fun value _ => ?_
  cases value with
  | integer number => exact .newInteger
  | boolean truth => exact .newInteger
  | real number => exact .newInteger
  | text text =>
      dsimp only
      cases Number.real? text with
      | some number => exact .newInteger
      | none => exact .raise
  | _ => exact .raise

theorem toReal_lawful : Lawful property toReal (Term.Respects property) := by
  refine formal_lawful.bind fun value _ => ?_
  split
  · split
    · exact .newReal
    · exact .raise
  · split
    · exact .newReal
    · exact .raise

/-! ## Lists -/

theorem sort_lawful : Lawful property sort (Term.Respects property) := by
  refine listFormal_lawful.bind fun elements respects => ?_
  cases done : sortTerms elements with
  | error message => exact .raise
  | ok sorted =>
      refine .newList fun element member => ?_
      exact respects element ((sortTerms_perm done).mem_iff.mp member)

theorem mem_of_keepUnlike?
    {store : Store}
    {kept extended : List Term}
    {element other : Term}
    (found : keepUnlike? store kept other = some extended)
    (member : element ∈ extended) :
    element ∈ kept ∨ element = other := by
  obtain ⟨among, _, found⟩ := Option.bind_eq_some_iff.mp found
  cases among with
  | true =>
      obtain rfl := Option.some.inj found
      exact .inl member
  | false =>
      obtain rfl := Option.some.inj found
      exact (List.mem_append.mp member).imp_right List.mem_singleton.mp

theorem mem_of_firstOccurrences?
    {store : Store}
    {elements kept : List Term}
    {element : Term}
    (found : firstOccurrences? store elements = some kept)
    (member : element ∈ kept) :
    element ∈ elements := by
  -- The loop keeps elements it has seen, so generalise over what is kept.
  have generally : ∀ (rest seen : List Term), rest.foldlM (keepUnlike? store) seen = some kept ->
      element ∈ seen ∨ element ∈ rest := by
    intro rest
    induction rest with
    | nil =>
        intro seen found
        obtain rfl := Option.some.inj found
        exact .inl member
    | cons head tail inductionHypothesis =>
        intro seen found
        rw [List.foldlM_cons, Option.bind_eq_bind, Option.bind_eq_some_iff] at found
        obtain ⟨extended, step, found⟩ := found
        rcases inductionHypothesis extended found with early | late
        · rcases mem_of_keepUnlike? step early with seenBefore | rfl
          · exact .inl seenBefore
          · exact .inr List.mem_cons_self
        · exact .inr (List.mem_cons_of_mem _ late)
  exact (generally elements [] found).resolve_left List.not_mem_nil

theorem unique_lawful : Lawful property unique (Term.Respects property) := by
  refine listFormal_lawful.bind fun elements respects => ?_
  have kept : Lawful property
      (Action.finitely fun store => firstOccurrences? store elements)
      fun kept => ∀ element ∈ kept, element.Respects property :=
    .finitely fun _ _ _ found element member =>
      respects element (mem_of_firstOccurrences? found member)
  exact kept.bind fun _ keptRespect => .newList keptRespect

theorem reverse_lawful : Lawful property reverse (Term.Respects property) :=
  listFormal_lawful.bind fun _ respects => .newList (by simpa using respects)

theorem isMember_lawful : Lawful property isMember (Term.Respects property) :=
  formal_lawful.bind fun _ _ => listFormal_lawful.bind fun _ _ =>
    Lawful.look.bind fun _ _ => .pure trivial

/-! ## Texts and output -/

theorem print_lawful : Lawful property print (Term.Respects property) :=
  formal_lawful.bind fun _ _ => Lawful.display.bind fun _ _ =>
    Lawful.write.bind fun _ _ => .pure trivial

theorem printLine_lawful : Lawful property printLine (Term.Respects property) :=
  formal_lawful.bind fun _ _ => Lawful.display.bind fun _ _ =>
    Lawful.write.bind fun _ _ => .pure trivial

theorem raiseValue_lawful : Lawful property raiseValue (Term.Respects property) :=
  formal_lawful.bind fun _ _ machine _ => ⟨.refl machine, trivial⟩

theorem typeOf_lawful : Lawful property typeOf (Term.Respects property) :=
  formal_lawful.bind fun _ _ => .newText

theorem toText_lawful : Lawful property toText (Term.Respects property) :=
  formal_lawful.bind fun _ _ => Lawful.display.bind fun _ _ => .newText

theorem length_lawful : Lawful property length (Term.Respects property) := by
  refine formal_lawful.bind fun x _ => ?_
  refine Lawful.store.bind fun store _ => ?_
  cases x with
  | object template memory => cases template <;> exact .newInteger
  | list cell => exact .newInteger
  | tuple cell => exact .newInteger
  | pair first second => exact .newInteger
  | text text => exact .newInteger
  | _ => exact .raise

/-- A function that makes a text of one formal. -/
theorem textFunction_lawful
    {function name : String}
    {convert : String -> String} :
    Lawful property (do Action.newText (convert (← textFormal function name)))
      (Term.Respects property) :=
  textFormal_lawful.bind fun _ _ => .newText

theorem findText_lawful : Lawful property findText (Term.Respects property) := by
  refine textFormal_lawful.bind fun text _ => ?_
  refine textFormal_lawful.bind fun part _ => ?_
  cases Text.splitFirst? part.toList text.toList with
  | some pieces => exact .newInteger
  | none => exact .newInteger

theorem newTexts_lawful {texts : List String} :
    Lawful property (newTexts texts) fun terms =>
      ∀ term ∈ terms, term.Respects property := by
  induction texts with
  | nil => exact .pure (by simp)
  | cons text rest inductionHypothesis =>
      refine Lawful.newText.bind fun term termRespects => ?_
      refine inductionHypothesis.bind fun terms termsRespect => ?_
      exact .pure (List.forall_mem_cons.mpr ⟨termRespects, termsRespect⟩)

theorem explode_lawful : Lawful property explode (Term.Respects property) :=
  textFormal_lawful.bind fun _ _ => textFormal_lawful.bind fun _ _ =>
    newTexts_lawful.bind fun _ respects => .newList respects

theorem textElements_lawful {elements : List Term} :
    Lawful property (textElements elements) fun _ => True := by
  induction elements with
  | nil => exact .pure trivial
  | cons element rest inductionHypothesis =>
      cases element with
      | text text => exact inductionHypothesis.bind fun _ _ => .pure trivial
      | _ => exact .raise

theorem implode_lawful : Lawful property implode (Term.Respects property) := by
  refine formal_lawful.bind fun xs _ => ?_
  refine textFormal_lawful.bind fun separator _ => ?_
  refine Lawful.store.bind fun store _ => ?_
  cases store.sequenceElements? xs with
  | some elements => exact textElements_lawful.bind fun _ _ => .newText
  | none => exact .raise

theorem digest_lawful : Lawful property digest (Term.Respects property) := by
  refine formal_lawful.bind fun data _ => ?_
  refine formal_lawful.bind fun algorithm _ => ?_
  cases algorithm with
  | text name =>
      dsimp only
      cases Digest.ofName? name with
      | some function => exact Lawful.display.bind fun _ _ => .newText
      | none => exact .raise
  | _ => exact .raise

end Builtin

/-- Every built-in operation is lawful. -/
theorem Native.run_lawful
    {property : StackProperty}
    (operation : Native) :
    Action.Lawful property operation.run (Term.Respects property) := by
  open Builtin in
  cases operation with
  | abs => exact absolute_lawful
  | ceil => exact realFormal_lawful.bind fun _ _ => .newInteger
  | downcase => exact textFunction_lawful
  | explode => exact explode_lawful
  | floor => exact realFormal_lawful.bind fun _ _ => .newInteger
  | hash => exact digest_lawful
  | implode => exact implode_lawful
  | index => exact findText_lawful
  | len => exact length_lawful
  | max => exact extremum_lawful
  | member => exact isMember_lawful
  | min => exact extremum_lawful
  | print => exact print_lawful
  | println => exact printLine_lawful
  | raise => exact raiseValue_lawful
  | reverse => exact reverse_lawful
  | sort => exact sort_lawful
  | sqrt => exact squareRoot_lawful
  | tointeger => exact toInteger_lawful
  | toreal => exact toReal_lawful
  | tostring => exact toText_lawful
  | trim => exact textFunction_lawful
  | typeof => exact typeOf_lawful
  | unique => exact unique_lawful
  | upcase => exact textFunction_lawful

end PatternMachine
