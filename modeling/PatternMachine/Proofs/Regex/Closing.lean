import PatternMachine.Regex.Class

/-!
# Reading the parts of a pattern with a closing behind it

A pattern is read alone, and with a parenthesis and an anchor behind it. A reader that is
content with what the pattern offers reads the same of both and leaves the closing. One that
refuses the pattern may be content with the pattern and the closing: it has then run over
the end of the pattern and has taken at least the parenthesis.
-/

namespace PatternMachine
namespace Regex

/-- What stands behind a pattern that is put between anchors. -/
abbrev closing : List Char := [')', '$']

/-- What can be left when the parenthesis of the closing is taken. -/
inductive RunsOver : List Char -> Prop
  | anchor : RunsOver ['$']
  | nothing : RunsOver []

section

variable {α β γ δ ε ζ : Type}

/-- Two results are both errors, or they are related. -/
inductive Agrees (related : α -> β -> Prop) : Except ε α -> Except ζ β -> Prop
  | reads {first : α} {second : β} : related first second -> Agrees related (.ok first) (.ok second)
  | refuses {first : ε} {second : ζ} : Agrees related (.error first) (.error second)

theorem Agrees.bind
    {related : α -> β -> Prop}
    {laterRelated : γ -> δ -> Prop}
    {alone : Except ε α}
    {closed : Except ζ β}
    {next : α -> Except ε γ}
    {closedNext : β -> Except ζ δ}
    (first : Agrees related alone closed)
    (second : ∀ value other, related value other ->
      Agrees laterRelated (next value) (closedNext other)) :
    Agrees laterRelated (alone >>= next) (closed >>= closedNext) := by
  cases first with
  | reads holds => exact second _ _ holds
  | refuses => exact .refuses

/-- A reader that goes on has run over the end of a pattern. -/
inductive Stranded (beyond : β -> Prop) : Except ε (β × List Char) -> Prop
  | refuses {problem : ε} : Stranded beyond (.error problem)
  | runsOver {value : β} {rest : List Char} :
      beyond value -> RunsOver rest -> Stranded beyond (.ok (value, rest))

/-- How reading a pattern and reading it with the closing behind it compare. -/
inductive Closes (agree : α -> β -> Prop) (beyond : β -> Prop) (chars : List Char) :
    Except ε (α × List Char) -> Except ζ (β × List Char) -> Prop
  | reads {first : α} {second : β} {rest : List Char} :
      agree first second -> rest.length < chars.length ->
      Closes agree beyond chars (.ok (first, rest)) (.ok (second, rest ++ closing))
  | refuses {problem : ε} {result : Except ζ (β × List Char)} :
      Stranded beyond result -> Closes agree beyond chars (.error problem) result

/-- The same is read with the closing as without it. -/
abbrev ClosesSame (chars : List Char) :
    Except ε (α × List Char) -> Except ζ (α × List Char) -> Prop :=
  Closes (· = ·) (fun _ => True) chars

/-- How a reader that may decline to read compares on a pattern and with the closing. -/
inductive Extends (chars : List Char) :
    Option (α × List Char) -> Option (α × List Char) -> Prop
  | declines : Extends chars none none
  | reads {value : α} {rest : List Char} :
      rest.length < chars.length ->
      Extends chars (some (value, rest)) (some (value, rest ++ closing))

theorem Stranded.bind
    {beyond : β -> Prop}
    {after : γ -> Prop}
    {result : Except ε (β × List Char)}
    {next : β × List Char -> Except ε (γ × List Char)}
    (first : Stranded beyond result)
    (second : ∀ value rest, beyond value -> RunsOver rest -> Stranded after (next (value, rest))) :
    Stranded after (result >>= next) := by
  cases first with
  | refuses => exact .refuses
  | runsOver holds runs => exact second _ _ holds runs

namespace Closes

variable {agree : α -> β -> Prop} {beyond : β -> Prop} {chars : List Char}

theorem bothRefuse {first : ε} {second : ζ} :
    Closes agree beyond chars (.error first) (.error second) :=
  .refuses .refuses

theorem bind
    {laterAgree : γ -> δ -> Prop}
    {laterBeyond : δ -> Prop}
    {alone : Except ε (α × List Char)}
    {closed : Except ζ (β × List Char)}
    {next : α × List Char -> Except ε (γ × List Char)}
    {closedNext : β × List Char -> Except ζ (δ × List Char)}
    (first : Closes agree beyond chars alone closed)
    (second : ∀ value other rest, agree value other -> rest.length < chars.length ->
      Closes laterAgree laterBeyond chars (next (value, rest)) (closedNext (other, rest ++ closing)))
    (overrun : ∀ value rest, beyond value -> RunsOver rest ->
      Stranded laterBeyond (closedNext (value, rest))) :
    Closes laterAgree laterBeyond chars (alone >>= next) (closed >>= closedNext) := by
  cases first with
  | reads agrees shorter => exact second _ _ _ agrees shorter
  | refuses stranded => exact .refuses (stranded.bind overrun)

theorem longer
    {more : List Char}
    {alone : Except ε (α × List Char)}
    {closed : Except ζ (β × List Char)}
    (closes : Closes agree beyond chars alone closed)
    (atMost : chars.length ≤ more.length) :
    Closes agree beyond more alone closed := by
  cases closes with
  | reads agrees shorter => exact .reads agrees (by omega)
  | refuses stranded => exact .refuses stranded

end Closes

namespace Extends

variable {chars more : List Char} {alone closed : Option (α × List Char)}

theorem longer
    (extend : Extends chars alone closed)
    (atMost : chars.length ≤ more.length) :
    Extends more alone closed := by
  cases extend with
  | declines => exact .declines
  | reads shorter => exact .reads (by omega)

theorem map
    (extend : Extends chars alone closed)
    (change : α -> β) :
    Extends chars (alone.map fun (value, rest) => (change value, rest))
      (closed.map fun (value, rest) => (change value, rest)) := by
  cases extend with
  | declines => exact .declines
  | reads shorter => exact .reads shorter

end Extends

end

/-! ## Characters -/

theorem octalDigits_closing (count total : Nat) (chars : List Char) :
    octalDigits count total (chars ++ closing) =
      ((octalDigits count total chars).1, (octalDigits count total chars).2 ++ closing) := by
  induction count, total, chars using octalDigits.induct with
  | case1 total rest => simp [octalDigits]
  | case2 count total c rest octal inductionHypothesis =>
      simp [octalDigits, octal] at inductionHypothesis ⊢
      exact inductionHypothesis
  | case3 count total c rest notOctal => simp [octalDigits, notOctal]
  | case4 count total positive => cases count <;> simp [octalDigits, isOctal]

theorem length_octalDigits_le (count total : Nat) (chars : List Char) :
    (octalDigits count total chars).2.length ≤ chars.length := by
  induction count, total, chars using octalDigits.induct with
  | case1 total rest => simp [octalDigits]
  | case2 count total c rest octal inductionHypothesis =>
      simp only [octalDigits, octal, if_true, List.length_cons]
      omega
  | case3 count total c rest notOctal => simp [octalDigits, notOctal]
  | case4 count total positive => cases count <;> simp [octalDigits]

theorem octalDigits_closes
    {chars more : List Char}
    (shorter : chars.length < more.length)
    (count total : Nat) :
    ClosesSame more (.ok (octalDigits count total chars) : Except ε (Nat × List Char))
      (.ok (octalDigits count total (chars ++ closing)) : Except ζ (Nat × List Char)) := by
  rw [octalDigits_closing]
  exact .reads rfl (Nat.lt_of_le_of_lt (length_octalDigits_le ..) shorter)

theorem bracedHex_closes (count total : Nat) (chars : List Char) :
    ClosesSame chars (bracedHex count total chars) (bracedHex count total (chars ++ closing)) := by
  induction chars generalizing count total with
  | nil => exact .bothRefuse
  | cons c rest inductionHypothesis =>
      rw [List.cons_append, bracedHex, bracedHex]
      split
      · split
        · exact .bothRefuse
        · exact .reads rfl (Nat.lt_succ_self _)
      · cases hexValue? c with
        | none => exact .bothRefuse
        | some value =>
            dsimp only
            split
            · exact .bothRefuse
            · exact (inductionHypothesis _ _).longer (Nat.le_succ _)

theorem hexEscape_closes (whole closedWhole chars : List Char) :
    ClosesSame chars (hexEscape whole chars) (hexEscape closedWhole (chars ++ closing)) := by
  match chars with
  | [] => exact .bothRefuse
  | first :: rest =>
      by_cases brace : first = '{'
      · subst brace
        rw [List.cons_append, hexEscape, hexEscape]
        have braced := bracedHex_closes 0 0 rest
        generalize bracedHex 0 0 rest = alone at braced ⊢
        generalize bracedHex 0 0 (rest ++ closing) = closed at braced ⊢
        cases braced with
        | reads same shorter => exact .reads same (Nat.lt_succ_of_lt shorter)
        | refuses stranded =>
            cases stranded with
            | refuses => exact .bothRefuse
            | runsOver holds runs => exact .refuses (.runsOver holds runs)
      · match rest with
        | [] =>
            have noDigit : hexValue? ')' = none := rfl
            simp only [List.cons_append, List.nil_append, hexEscape, noDigit]
            cases hexValue? first <;> exact .bothRefuse
        | second :: rest =>
            simp only [List.cons_append, hexEscape]
            cases hexValue? first with
            | none => exact .bothRefuse
            | some high =>
                cases hexValue? second with
                | none => exact .bothRefuse
                | some low => exact .reads rfl (by simp only [List.length_cons]; omega)

theorem escape_closes (chars : List Char) :
    ClosesSame chars (escape chars) (escape (chars ++ closing)) := by
  match chars with
  | [] => exact .refuses (.runsOver trivial .nothing)
  | [_] => exact .refuses (.runsOver trivial .anchor)
  | slash :: c :: rest =>
      have shorter : rest.length < (slash :: c :: rest).length := by
        simp only [List.length_cons]
        omega
      unfold escape
      dsimp only [List.cons_append]
      split
      · exact octalDigits_closes shorter 2 0
      · split
        · match rest with
          | [] => exact .bothRefuse
          | next :: rest =>
              dsimp only [List.cons_append]
              split
              · exact octalDigits_closes shorter 2 (c.toNat - '0'.toNat)
              · exact .bothRefuse
        · split
          · exact (hexEscape_closes _ _ rest).longer (Nat.le_of_lt shorter)
          · cases controlEscape? c with
            | some code => exact .reads rfl shorter
            | none =>
                dsimp only
                split
                · exact .reads rfl shorter
                · exact .bothRefuse

/-! ## Classes -/

theorem classChar_closes (whole closedWhole chars : List Char) :
    ClosesSame chars (classChar whole chars) (classChar closedWhole (chars ++ closing)) := by
  match chars with
  | [] => exact .refuses (.runsOver trivial .anchor)
  | c :: rest =>
      by_cases slash : c = '\\'
      · subst slash
        exact escape_closes ('\\' :: rest)
      · rw [List.cons_append, classChar, classChar]
        · exact .reads rfl (Nat.lt_succ_self _)
        · exact slash
        · exact slash

theorem letterClass?_of_ne
    {c : Char}
    (noSlash : c ≠ '\\')
    (folded : Bool)
    (rest : List Char) :
    letterClass? folded (c :: rest) = none := by
  rw [letterClass?]
  rintro letter rest ⟨⟩
  exact noSlash rfl

theorem letterClass?_extends (folded : Bool) (chars : List Char) :
    Extends chars (letterClass? folded chars) (letterClass? folded (chars ++ closing)) := by
  match chars with
  | [] => exact .declines
  | c :: rest =>
      by_cases slash : c = '\\'
      · subst slash
        match rest with
        | [] => exact .declines
        | letter :: rest =>
            have shorter : rest.length < ('\\' :: letter :: rest).length := by
              simp only [List.length_cons]
              omega
            rw [List.cons_append, List.cons_append, letterClass?, letterClass?]
            cases letterGroup? letter with
            | some ranges => exact .reads shorter
            | none =>
                dsimp only
                split
                · cases letterGroup? letter.toLower with
                  | some ranges => exact .reads shorter
                  | none => exact .declines
                · exact .declines
      · rw [List.cons_append, letterClass?_of_ne slash, letterClass?_of_ne slash]
        exact .declines

/-- In front of a character that stands in the pattern, the closing plays no role. -/
theorem takeWhile_closing
    {c : Char}
    {chars : List Char}
    (member : c ∈ chars) :
    (chars ++ closing).takeWhile (· != c) = chars.takeWhile (· != c) ∧
      ((chars ++ closing).dropWhile (· != c)).drop 1 =
        (chars.dropWhile (· != c)).drop 1 ++ closing := by
  induction chars with
  | nil => cases member
  | cons first rest inductionHypothesis =>
      by_cases same : first = c
      · simp [same]
      · have later : c ∈ rest := (List.mem_cons.mp member).resolve_left fun equal => same equal.symm
        simpa [same] using inductionHypothesis later

theorem length_dropWhile_lt
    {c : Char}
    {chars : List Char}
    (member : c ∈ chars) :
    ((chars.dropWhile (· != c)).drop 1).length < chars.length := by
  have atMost := (List.dropWhile_suffix (l := chars) (· != c)).length_le
  have positive := List.length_pos_of_mem member
  rw [List.length_drop]
  omega

theorem propertyName_closes
    {chars : List Char}
    (nonempty : chars ≠ [])
    (whole closedWhole : List Char) :
    Agrees (fun named closed => closed = (named.1, named.2 ++ closing) ∧
        named.2.length < chars.length)
      (propertyName whole chars) (propertyName closedWhole (chars ++ closing)) := by
  match chars with
  | c :: rest =>
      by_cases brace : c = '{'
      · subst brace
        rw [List.cons_append, propertyName, propertyName]
        by_cases ends : '}' ∈ rest
        · obtain ⟨before, behind⟩ := takeWhile_closing ends
          rw [if_pos (List.contains_iff_mem.mpr ends),
            if_pos (List.contains_iff_mem.mpr (List.mem_append_left _ ends)), before, behind]
          exact .reads ⟨rfl, Nat.lt_succ_of_lt (length_dropWhile_lt ends)⟩
        · have closedEnds : '}' ∉ rest ++ closing := by simp [ends]
          rw [if_neg (mt List.contains_iff_mem.mp ends),
            if_neg (mt List.contains_iff_mem.mp closedEnds)]
          exact .refuses
      · have single : ∀ whole more, propertyName whole (c :: more) = .ok ([c], more) := by
          intro whole more
          rw [propertyName]
          · rfl
          · exact brace
        rw [List.cons_append, single, single]
        exact .reads ⟨rfl, Nat.lt_succ_self _⟩

theorem namedClass?_of_unknown
    {name : List Char}
    (plain : (name.head? == some '^') = false)
    (unknown : Text.classRanges? (String.ofList name) = none)
    (folded negated : Bool) :
    namedClass? folded negated name = none := by
  simp only [namedClass?, plain, Bool.false_eq_true, if_false, unknown, Option.map_none]

/-- What stands behind `\p` or `\P`. -/
theorem propertyClass_of_letter
    {letter : Char}
    (property : (letter != 'p' && letter != 'P') = false)
    (folded : Bool)
    (after : List Char) :
    propertyClass folded ('\\' :: letter :: after) =
      propertyName ('\\' :: letter :: after) after >>= fun named =>
        match namedClass? folded (letter == 'P') named.1 with
        | some item => .ok (some (item, named.2))
        | none => .error (.characterRange (before ('\\' :: letter :: after) named.2)) :=
  if_neg (by rw [property]; exact Bool.false_ne_true)

theorem propertyClass_extends (folded : Bool) (chars : List Char) :
    Agrees (Extends chars) (propertyClass folded chars)
      (propertyClass folded (chars ++ closing)) := by
  match chars with
  | [] => exact .reads .declines
  | c :: rest =>
      by_cases slash : c = '\\'
      · subst slash
        match rest with
        | [] => exact .reads .declines
        | letter :: after =>
            cases property : letter != 'p' && letter != 'P' with
            | true =>
                have declines : ∀ more, propertyClass folded ('\\' :: letter :: more) = .ok none :=
                  fun more => if_pos property
                rw [List.cons_append, List.cons_append, declines, declines]
                exact .reads Extends.declines
            | false =>
                rw [List.cons_append, List.cons_append, propertyClass_of_letter property,
                  propertyClass_of_letter property]
                by_cases nonempty : after = []
                · subst nonempty
                  have nothing : namedClass? folded (letter == 'P') [] = none :=
                    namedClass?_of_unknown rfl (by decide +kernel) _ _
                  have parenthesis : namedClass? folded (letter == 'P') [')'] = none :=
                    namedClass?_of_unknown rfl (by decide +kernel) _ _
                  have unnamed : propertyName ['\\', letter] [] = .ok ([], []) := rfl
                  have named : propertyName ('\\' :: letter :: closing) closing =
                      .ok ([')'], ['$']) := rfl
                  rw [List.nil_append, unnamed, named]
                  dsimp only [bind, Except.bind]
                  rw [nothing, parenthesis]
                  exact .refuses
                · refine (propertyName_closes nonempty _ _).bind ?_
                  rintro ⟨name, rest⟩ _ ⟨rfl, shorter⟩
                  dsimp only
                  cases namedClass? folded (letter == 'P') name with
                  | none => exact .refuses
                  | some item =>
                      refine .reads (.reads (Nat.lt_trans shorter ?_))
                      simp only [List.length_cons]
                      omega
      · have declines : ∀ more, propertyClass folded (c :: more) = .ok none := by
          intro more
          unfold propertyClass
          split
          · rename_i same
            cases same
            exact absurd rfl slash
          · rfl
        rw [List.cons_append, declines, declines]
        exact .reads Extends.declines

theorem splitAtColonBracket_extends (chars : List Char) :
    Extends chars (splitAtColonBracket chars) (splitAtColonBracket (chars ++ closing)) := by
  induction chars using splitAtColonBracket.induct with
  | case1 rest => exact .reads (by simp only [List.length_cons]; omega)
  | case2 c rest notEnd inductionHypothesis =>
      have stillNotEnd : ∀ later, c = ':' -> rest ++ closing = ']' :: later -> False := by
        intro later colon same
        cases rest with
        | nil => cases same
        | cons next rest =>
            obtain rfl : next = ']' := (List.cons.inj same).1
            exact notEnd rest colon rfl
      rw [List.cons_append, splitAtColonBracket.eq_2 c (rest ++ closing) stillNotEnd,
        splitAtColonBracket.eq_2 c rest notEnd]
      exact (inductionHypothesis.map (c :: ·)).longer (Nat.le_succ _)
  | case3 => exact .declines

theorem bracketGroup_extends (folded : Bool) (chars : List Char) :
    Agrees (Extends chars) (bracketGroup folded chars)
      (bracketGroup folded (chars ++ closing)) := by
  have declines : ∀ {more}, (∀ inner, more ≠ '[' :: ':' :: inner) ->
      bracketGroup folded more = .ok none := by
    intro more other
    unfold bracketGroup
    split
    · exact absurd rfl (other _)
    · rfl
  match chars with
  | [] =>
      rw [declines (by simp), declines (by simp)]
      exact .reads .declines
  | [c] =>
      rw [declines (by simp), declines (by simp)]
      exact .reads .declines
  | c :: colon :: inner =>
      by_cases opens : c = '[' ∧ colon = ':'
      · obtain ⟨rfl, rfl⟩ := opens
        rw [List.cons_append, List.cons_append, bracketGroup, bracketGroup]
        have split := splitAtColonBracket_extends inner
        generalize splitAtColonBracket inner = alone at split ⊢
        generalize splitAtColonBracket (inner ++ closing) = closed at split ⊢
        cases split with
        | declines => exact .reads .declines
        | @reads name rest shorter =>
            dsimp only
            cases bracketGroups.lookup _ with
            | none => exact .refuses
            | some ranges =>
                refine .reads (.reads (Nat.lt_trans shorter ?_))
                simp only [List.length_cons]
                omega
      · have other : ∀ more inner, c :: colon :: more ≠ '[' :: ':' :: inner := by
          rintro more inner ⟨⟩
          exact opens ⟨rfl, rfl⟩
        rw [List.cons_append, List.cons_append, declines (other _), declines (other _)]
        exact .reads .declines

/-! ## Bracketed classes -/

section

variable {folded : Bool} {whole closedWhole chars : List Char} {low : Nat}

theorem classRange_of_single
    {rest : List Char}
    (read : classChar whole chars = .ok (low, rest))
    (single : ∀ next after, rest = '-' :: next :: after -> next = ']') :
    classRange folded whole chars = .ok ({ ranges := [(low, low)], folded }, rest) := by
  unfold classRange
  rw [read]
  dsimp only [bind, Except.bind]
  split
  · rw [if_pos (beq_iff_eq.mpr (single _ _ rfl))]
    rfl
  · rfl

theorem classRange_of_dash
    {next : Char}
    {after : List Char}
    (read : classChar whole chars = .ok (low, '-' :: next :: after))
    (goesOn : next ≠ ']') :
    classRange folded whole chars = classChar whole (next :: after) >>= fun high =>
      if high.1 < low then .error (.characterRange (before chars high.2))
      else .ok ({ ranges := [(low, high.1)], folded }, high.2) := by
  unfold classRange
  rw [read]
  refine (if_neg (mt beq_iff_eq.mp goesOn)).trans ?_
  refine congrArg (classChar whole (next :: after) >>= ·) (funext fun high => ?_)
  dsimp only
  split <;> rfl

/-- The same is read with the closing, or a dash at the end of the pattern has come to
stand for a range. -/
def ClosesButDash
    (chars : List Char)
    (alone closed : Except Problem (ClassItem × List Char)) : Prop :=
  ClosesSame chars alone closed ∨
    (∃ item, alone = .ok (item, ['-'])) ∧ Stranded (fun _ => True) closed

theorem classRange_closes :
    ClosesButDash chars (classRange folded whole chars)
      (classRange folded closedWhole (chars ++ closing)) := by
  have lowest := classChar_closes whole closedWhole chars
  generalize alone_eq : classChar whole chars = alone at lowest
  generalize closed_eq : classChar closedWhole (chars ++ closing) = closed at lowest
  cases lowest with
  | @refuses problem _ stranded =>
      have refused : classRange folded whole chars = .error problem := by
        unfold classRange
        rw [alone_eq]
        rfl
      rw [refused]
      refine .inl (.refuses ?_)
      unfold classRange
      rw [closed_eq]
      refine stranded.bind fun low rest _ runs => ?_
      cases runs <;> exact .runsOver trivial (by constructor)
  | @reads low _ rest same shorter =>
      subst same
      by_cases range : ∃ next after, rest = '-' :: next :: after ∧ next ≠ ']'
      · obtain ⟨next, after, rfl, goesOn⟩ := range
        rw [classRange_of_dash alone_eq goesOn, classRange_of_dash closed_eq goesOn]
        refine .inl (Closes.bind ((classChar_closes whole closedWhole (next :: after)).longer ?_)
          ?_ ?_)
        · exact Nat.le_of_lt (Nat.lt_of_succ_lt shorter)
        · rintro high _ rest rfl shorter
          dsimp only
          split
          · exact .bothRefuse
          · exact .reads rfl shorter
        · intro high rest _ runs
          dsimp only
          split
          · exact .refuses
          · exact .runsOver trivial runs
      · have single : ∀ next after, rest = '-' :: next :: after -> next = ']' :=
          fun next after same => Decidable.byContradiction fun goesOn =>
            range ⟨next, after, same, goesOn⟩
        rw [classRange_of_single alone_eq single]
        by_cases dash : rest = ['-']
        · subst dash
          rw [classRange_of_dash closed_eq (by decide)]
          refine .inr ⟨⟨_, rfl⟩, ?_⟩
          have parenthesis : classChar closedWhole closing = .ok (')'.toNat, ['$']) := rfl
          rw [parenthesis]
          dsimp only [bind, Except.bind]
          split
          · exact .refuses
          · exact .runsOver trivial .anchor
        · rw [classRange_of_single closed_eq]
          · exact .inl (.reads rfl shorter)
          · intro next after same
            match rest with
            | [] => cases same
            | [c] =>
                obtain rfl : c = '-' := (List.cons.inj same).1
                exact absurd rfl dash
            | c :: second :: rest =>
                obtain ⟨rfl, behind⟩ := List.cons.inj same
                obtain rfl : second = next := (List.cons.inj behind).1
                exact single second rest rfl

/-- What comes after offering to read. -/
theorem ClosesButDash.offer
    {alone closed : Except Problem (Option (ClassItem × List Char))}
    {next closedNext : Option (ClassItem × List Char) -> Except Problem (ClassItem × List Char)}
    (offered : Agrees (Extends chars) alone closed)
    (found : ∀ item, next (some item) = .ok item)
    (closedFound : ∀ item, closedNext (some item) = .ok item)
    (declined : ClosesButDash chars (next none) (closedNext none)) :
    ClosesButDash chars (alone >>= next) (closed >>= closedNext) := by
  cases offered with
  | refuses => exact .inl .bothRefuse
  | reads extend =>
      cases extend with
      | declines => exact declined
      | @reads value rest shorter =>
          change ClosesButDash chars (next (some (value, rest)))
            (closedNext (some (value, rest ++ closing)))
          rw [found, closedFound]
          exact .inl (.reads rfl shorter)

theorem classItem_closes :
    ClosesButDash chars (classItem folded whole chars)
      (classItem folded closedWhole (chars ++ closing)) := by
  refine .offer (bracketGroup_extends folded chars) (fun _ => rfl) (fun _ => rfl) ?_
  refine .offer (propertyClass_extends folded chars) (fun _ => rfl) (fun _ => rfl) ?_
  have letter := letterClass?_extends folded chars
  dsimp only
  generalize letterClass? folded chars = alone at letter ⊢
  generalize letterClass? folded (chars ++ closing) = closed at letter ⊢
  cases letter with
  | declines => exact classRange_closes
  | reads shorter => exact .inl (.reads rfl shorter)

theorem classItems_succ
    {first : Bool}
    (goesOn : first = false -> ∀ rest, chars ≠ ']' :: rest)
    (steps : Nat)
    (seen : List ClassItem) :
    classItems folded whole (steps + 1) first seen chars =
      classItem folded whole chars >>= fun found =>
        classItems folded whole steps false (found.1 :: seen) found.2 := by
  rw [classItems]
  exact fun rest same isFirst => goesOn isFirst rest same

/-- Behind the end of a pattern no bracket closes a class. -/
theorem classItems_unclosed
    (folded : Bool)
    (whole : List Char)
    {chars : List Char}
    (ends : chars = ['-'] ∨ RunsOver chars)
    (steps : Nat)
    (seen : List ClassItem) :
    ∃ problem, classItems folded whole steps false seen chars = .error problem := by
  have nothing : ∀ steps seen, ∃ problem,
      classItems folded whole steps false seen [] = .error problem := by
    rintro (_ | steps) seen
    · exact ⟨_, rfl⟩
    · exact ⟨_, rfl⟩
  match steps with
  | 0 => exact ⟨_, rfl⟩
  | steps + 1 =>
      rcases ends with rfl | ends
      · exact nothing steps _
      · cases ends with
        | nothing => exact nothing _ _
        | anchor => exact nothing steps _

theorem classItems_closes
    {steps more : Nat}
    (enough : chars.length < steps)
    (enoughMore : chars.length + 2 < more)
    (first : Bool)
    (seen : List ClassItem) :
    ClosesSame chars (classItems folded whole steps first seen chars)
      (classItems folded closedWhole more first seen (chars ++ closing)) := by
  induction steps generalizing chars more first seen with
  | zero => exact absurd enough (Nat.not_lt_zero _)
  | succ steps inductionHypothesis =>
      obtain ⟨more, rfl⟩ : ∃ fewer, more = fewer + 1 := ⟨more - 1, by omega⟩
      by_cases ends : first = false ∧ ∃ rest, chars = ']' :: rest
      · obtain ⟨rfl, rest, rfl⟩ := ends
        exact .reads rfl (Nat.lt_succ_self _)
      · have goesOn : first = false -> ∀ rest, chars ≠ ']' :: rest :=
          fun isFirst rest same => ends ⟨isFirst, rest, same⟩
        have closedGoesOn : first = false -> ∀ rest, chars ++ closing ≠ ']' :: rest := by
          intro isFirst rest same
          cases chars with
          | nil => cases same
          | cons c chars =>
              obtain rfl : c = ']' := (List.cons.inj same).1
              exact goesOn isFirst chars rfl
        rw [classItems_succ goesOn, classItems_succ closedGoesOn]
        -- With an item behind the end of the pattern, no bracket is left to close the class.
        have overrun : ∀ (item : ClassItem) rest, True -> RunsOver rest -> Stranded (fun _ => True)
            (classItems folded closedWhole more false (item :: seen) rest) := by
          intro item rest _ runs
          obtain ⟨problem, refused⟩ :=
            classItems_unclosed folded closedWhole (.inr runs) more (item :: seen)
          rw [refused]
          exact .refuses
        rcases classItem_closes with closes | ⟨⟨item, alone⟩, stranded⟩
        · refine closes.bind ?_ overrun
          rintro item _ rest rfl shorter
          have inSteps : rest.length < steps := by omega
          have inMore : rest.length + 2 < more := by omega
          exact (inductionHypothesis inSteps inMore false (item :: seen)).longer
            (Nat.le_of_lt shorter)
        · obtain ⟨problem, refused⟩ :=
            classItems_unclosed folded whole (.inl rfl) steps (item :: seen)
          rw [alone]
          dsimp only [bind, Except.bind]
          rw [refused]
          exact .refuses (stranded.bind overrun)

theorem bracketClass_closes (folded : Bool) (inner : List Char) :
    ClosesSame ('[' :: inner) (bracketClass folded ('[' :: inner))
      (bracketClass folded ('[' :: (inner ++ closing))) := by
  have body : ∀ (negated : Bool) (rest : List Char), rest.length ≤ inner.length ->
      ClosesSame ('[' :: inner)
        (classItems folded ('[' :: inner) (rest.length + 2) true [] rest >>= fun read =>
          .ok (({ items := read.1, negated } : CharClass), read.2))
        (classItems folded ('[' :: (inner ++ closing)) ((rest ++ closing).length + 2) true []
          (rest ++ closing) >>= fun read =>
            .ok (({ items := read.1, negated } : CharClass), read.2)) := by
    intro negated rest atMost
    refine Closes.bind ((classItems_closes ?_ ?_ true []).longer (Nat.le_succ_of_le atMost)) ?_ ?_
    · omega
    · rw [List.length_append]
      exact Nat.lt_add_of_pos_right Nat.two_pos
    · rintro items _ left rfl shorter
      exact .reads rfl shorter
    · exact fun items left _ runs => .runsOver trivial runs
  match inner with
  | [] => exact body false [] (Nat.le_refl 0)
  | c :: rest =>
      by_cases caret : c = '^'
      · subst caret
        exact body true rest (Nat.le_succ _)
      · have positive : ∀ more, bracketClass folded ('[' :: c :: more) =
            classItems folded ('[' :: c :: more) ((c :: more).length + 2) true [] (c :: more) >>=
              fun read => .ok (({ items := read.1, negated := false } : CharClass), read.2) := by
          intro more
          have plain : ((('[' :: c :: more).drop 1).head? == some '^') = false := by
            simpa using caret
          unfold bracketClass
          simp only [plain, Bool.false_eq_true, if_false]
          rfl
        rw [List.cons_append, positive, positive]
        exact body false (c :: rest) (Nat.le_refl _)

end

end Regex
end PatternMachine
