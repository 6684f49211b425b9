import PatternMachine.Proofs.Regex.Enclosure
import PatternMachine.Proofs.Regex.Matching

/-!
# Patterns between anchors

A run on a pattern by itself and a run on it between anchors stay together, element by
element, until one of them refuses the pattern or the pattern ends. What is left then is the
closing, which ends the group around the pattern if no other group is open.
-/

namespace PatternMachine
namespace Regex

namespace Reader

variable {alone closed : Reader}

/-! ## Runs -/

theorem run_nil_of_isOpen {reader : Reader} (isOpen : reader.IsOpen) (steps : Nat) :
    run (steps + 1) reader [] = .error (.missingParenthesis (String.ofList reader.whole)) := by
  rw [run]
  have nonempty : reader.groups.isEmpty = false := List.isEmpty_eq_false_iff.mpr isOpen
  simp only [List.isEmpty_nil, if_true, nonempty]
  rfl

theorem run_nil {reader : Reader} (closedAll : reader.groups = []) (steps : Nat) :
    run (steps + 1) reader [] =
      reader.checkHeight reader.level.item >>= fun _ => .ok reader.level.item := by
  rw [run, closedAll]
  rfl

theorem run_cons (steps : Nat) (reader : Reader) (c : Char) (rest : List Char) :
    run (steps + 1) reader (c :: rest) =
      reader.step (c :: rest) >>= fun read => run steps read.1 read.2 := rfl

/-- Behind the end of a pattern no parenthesis closes the group that is open. -/
theorem run_unclosed
    {reader : Reader}
    {chars : List Char}
    (isOpen : reader.IsOpen)
    (runs : RunsOver chars)
    (steps : Nat) :
    ∃ problem, run steps reader chars = .error problem := by
  have nothing : ∀ steps {reader : Reader}, reader.IsOpen ->
      ∃ problem, run steps reader [] = .error problem := by
    rintro (_ | steps) reader isOpen
    · exact ⟨_, rfl⟩
    · exact ⟨_, run_nil_of_isOpen isOpen steps⟩
  cases runs with
  | nothing => exact nothing steps isOpen
  | anchor =>
      match steps with
      | 0 => exact ⟨_, rfl⟩
      | steps + 1 =>
          cases pushed : reader.pushLeaf
              (.place (if reader.switches.manyLines then .lineEnd else .textEnd)) with
          | error problem =>
              refine ⟨problem, ?_⟩
              rw [run_cons]
              change ((reader.pushLeaf _ >>= fun after => .ok (after, [])) >>= _) = _
              rw [pushed]
              rfl
          | ok after =>
              obtain ⟨problem, refused⟩ := nothing steps (push_isOpen pushed isOpen)
              refine ⟨problem, ?_⟩
              rw [run_cons]
              change ((reader.pushLeaf _ >>= fun after => .ok (after, [])) >>= _) = _
              rw [pushed]
              exact refused

theorem closeGroup_of_isOpen
    {reader : Reader}
    (isOpen : reader.IsOpen)
    (piece : String) :
    reader.closeGroup ≠ .error (.unexpectedParenthesis piece) := by
  unfold closeGroup
  cases groups : reader.groups with
  | nil => exact absurd groups isOpen
  | cons group rest =>
      dsimp only
      rw [checkHeight_eq]
      split
      · rintro ⟨⟩
      · refine fun refused => ?_
        dsimp only [bind, Except.bind] at refused
        rw [push_eq] at refused
        generalize (if group.captures then _ else _ : Item) = item at refused
        split at refused <;> cases refused

theorem closeGroup_of_high
    {reader : Reader}
    (high : reader.level.item.height > heightLimit) :
    reader.closeGroup = .error (.nestingDepth (String.ofList reader.whole)) := by
  unfold closeGroup
  dsimp only
  rw [checkHeight_eq, if_pos high]
  rfl

/-- A quotation that is left open takes the closing. -/
theorem quotation_stranded
    {reader : Reader}
    {quotation : List Char}
    (isOpen : reader.IsOpen)
    (goesOn : ¬ ['\\', 'E'] <:+: quotation) :
    Stranded IsOpen (reader.step ('\\' :: 'Q' :: (quotation ++ closing))) := by
  change Stranded IsOpen (reader.backslash ('\\' :: 'Q' :: (quotation ++ closing)))
  rw [backslash_quotation, (splitLiteral_open goesOn).2]
  cases pushed : reader.pushLiteral (splitLiteral (quotation ++ closing)).1 with
  | error problem => exact .refuses
  | ok after => exact .runsOver (pushLiteral_isOpen pushed isOpen) .nothing

/-- After the end of the pattern the first parenthesis of the closing is read. -/
theorem run_closing (steps : Nat) (reader : Reader) :
    run (steps + 1) reader closing =
      reader.closeGroup >>= fun after => run steps after ['$'] := by
  rw [run_cons]
  change ((reader.closeGroup >>= fun after => .ok (after, ['$'])) >>= _) = _
  cases reader.closeGroup <;> rfl

/-- Reading comes from one place of a pattern to another. -/
inductive ComesTo : Reader -> List Char -> Reader -> List Char -> Prop
  | here {reader : Reader} {chars : List Char} : ComesTo reader chars reader chars
  | next {reader after last : Reader} {c : Char} {rest remaining left : List Char} :
      reader.step (c :: rest) = .ok (after, remaining) -> ComesTo after remaining last left ->
      ComesTo reader (c :: rest) last left

/-- From a place reading comes to the place itself, and on from where its element ends. -/
theorem ComesTo.here_or_after
    {reader after last : Reader}
    {chars rest left : List Char}
    (comes : ComesTo reader chars last left)
    (read : reader.step chars = .ok (after, rest)) :
    left = chars ∨ ComesTo after rest last left := by
  cases comes with
  | here => exact .inl rfl
  | next step later =>
      obtain ⟨rfl, rfl⟩ := Prod.mk.inj (Except.ok.inj (read.symm.trans step))
      exact .inr later

/-- A pattern that is refused by itself is refused between anchors, if it is not for closing
a group that it does not open. -/
theorem Enclosed.run_refuses
    {problem : Problem}
    (opened : ∀ piece, problem ≠ .unexpectedParenthesis piece)
    {steps more : Nat}
    {chars : List Char}
    (enough : chars.length < steps)
    (enclosed : Enclosed alone closed)
    (refused : run steps alone chars = .error problem) :
    ∃ other, run more closed (chars ++ closing) = .error other := by
  induction steps generalizing alone closed chars more with
  | zero => exact absurd enough (Nat.not_lt_zero _)
  | succ steps inductionHypothesis =>
      match more with
      | 0 => exact ⟨_, rfl⟩
      | more + 1 =>
          match chars with
          | [] =>
              rw [List.nil_append, run_closing]
              by_cases isOpen : alone.IsOpen
              · have closes := enclosed.closeGroup (closeGroup_of_isOpen isOpen)
                generalize alone.closeGroup = left at closes
                generalize closed.closeGroup = closedLeft at closes ⊢
                cases closes with
                | refuses => exact ⟨_, rfl⟩
                | reads later => exact run_unclosed later.isOpen .anchor more
              · rw [run_nil (not_not.mp isOpen), checkHeight_eq] at refused
                split at refused
                · rename_i high
                  rw [← enclosed.level] at high
                  rw [closeGroup_of_high high]
                  exact ⟨_, rfl⟩
                · cases refused
          | c :: rest =>
              rw [run_cons] at refused
              rw [List.cons_append, run_cons]
              by_cases quotes : ∀ quotation, c :: rest = '\\' :: 'Q' :: quotation ->
                  ['\\', 'E'] <:+: quotation
              · have unopened : ∀ piece,
                    alone.step (c :: rest) ≠ .error (.unexpectedParenthesis piece) := by
                  intro piece same
                  rw [same] at refused
                  cases refused
                  exact opened piece rfl
                have closes := enclosed.step quotes unopened
                generalize alone.step (c :: rest) = read at closes refused
                generalize closed.step (c :: (rest ++ closing)) = closedRead at closes ⊢
                cases closes with
                | reads later shorter =>
                    have inSteps := Nat.lt_of_lt_of_le shorter (Nat.le_of_lt_succ enough)
                    exact inductionHypothesis inSteps later refused
                | refuses stranded =>
                    cases stranded with
                    | refuses => exact ⟨_, rfl⟩
                    | runsOver isOpen runs => exact run_unclosed isOpen runs more
              · push Not at quotes
                obtain ⟨quotation, same, goesOn⟩ := quotes
                have stranded := quotation_stranded enclosed.isOpen goesOn
                have read : closed.step (c :: (rest ++ closing)) =
                    closed.step ('\\' :: 'Q' :: (quotation ++ closing)) :=
                  congrArg (fun chars => closed.step (chars ++ closing)) same
                rw [read]
                generalize closed.step _ = closedRead at stranded ⊢
                cases stranded with
                | refuses => exact ⟨_, rfl⟩
                | runsOver isOpen runs => exact run_unclosed isOpen runs more

/-- The closing ends the group around a pattern and puts the anchor behind it. -/
theorem run_surrounded
    {reader : Reader}
    (surrounded : reader.groups = [surrounding])
    (low : reader.level.item.height < heightLimit)
    (steps : Nat) :
    ∃ height, run (steps + 3) reader closing =
      .ok ⟨reader.level.item.expression.anchored, height⟩ := by
  have limit : heightLimit = 1000 := rfl
  have ended : reader.closeGroup = .ok { reader with
      level := { items := [reader.level.item, ⟨.place .textStart, 1⟩] }, groups := []
      switches := {}, lastRepeat := none } := by
    unfold closeGroup
    rw [surrounded]
    dsimp only
    rw [checkHeight_eq, if_neg (by omega)]
    dsimp only [bind, Except.bind]
    rw [push_eq]
    exact if_neg (show ¬ reader.level.item.height > heightLimit by omega)
  generalize left_eq : { reader with
    level := { items := [reader.level.item, ⟨.place .textStart, 1⟩] }, groups := [],
    switches := {}, lastRepeat := none } = left at ended
  have anchored : left.step ['$'] = .ok ({ left with
      level := { items := [⟨.place .textEnd, 1⟩, reader.level.item, ⟨.place .textStart, 1⟩] } },
      []) := by
    subst left_eq
    rfl
  let whole : Item := ⟨reader.level.item.expression.anchored,
    1 + max (max (max 0 1) reader.level.item.height) 1⟩
  refine ⟨whole.height, ?_⟩
  rw [run_closing, ended]
  change run (steps + 2) left ['$'] = _
  rw [run_cons, anchored]
  change run (steps + 1) _ [] = _
  rw [run_nil (by subst left_eq; rfl), checkHeight_eq]
  have fits : ¬ whole.height > heightLimit := by
    show ¬ 1 + max (max (max 0 1) reader.level.item.height) 1 > heightLimit
    omega
  exact congrArg (· >>= _) (if_neg fits)

/-- A pattern that is read by itself is read between anchors, if it ends its quotations and
leaves room for one more group. -/
theorem Enclosed.run_reads
    {item : Item}
    (low : item.height < heightLimit)
    {steps more : Nat}
    {chars : List Char}
    (enough : chars.length < steps)
    (enoughMore : chars.length + 2 < more)
    (enclosed : Enclosed alone closed)
    (quotes : ∀ reader quotation, ComesTo alone chars reader ('\\' :: 'Q' :: quotation) ->
      ['\\', 'E'] <:+: quotation)
    (read : run steps alone chars = .ok item) :
    ∃ height, run more closed (chars ++ closing) = .ok ⟨item.expression.anchored, height⟩ := by
  induction steps generalizing alone closed chars more with
  | zero => exact absurd enough (Nat.not_lt_zero _)
  | succ steps inductionHypothesis =>
      obtain ⟨more, rfl⟩ : ∃ fewer, more = fewer + 1 := ⟨more - 1, by omega⟩
      match chars with
      | [] =>
          by_cases isOpen : alone.IsOpen
          · rw [run_nil_of_isOpen isOpen] at read
            cases read
          · have none := not_not.mp isOpen
            rw [run_nil none, checkHeight_eq] at read
            split at read
            · cases read
            · cases read
              rw [← enclosed.level] at low ⊢
              obtain ⟨fewer, rfl⟩ : ∃ fewer, more = fewer + 2 := ⟨more - 2, by omega⟩
              exact run_surrounded (by rw [enclosed.groups, none]; rfl) low fewer
      | c :: rest =>
          rw [run_cons] at read
          rw [List.cons_append, run_cons]
          have here : ∀ quotation, c :: rest = '\\' :: 'Q' :: quotation ->
              ['\\', 'E'] <:+: quotation :=
            fun quotation same => quotes alone quotation (same ▸ .here)
          have unopened : ∀ piece,
              alone.step (c :: rest) ≠ .error (.unexpectedParenthesis piece) := by
            intro piece same
            rw [same] at read
            cases read
          have closes := enclosed.step here unopened
          generalize stepped : alone.step (c :: rest) = left at closes read
          generalize closed.step (c :: (rest ++ closing)) = closedLeft at closes ⊢
          cases closes with
          | @reads after closedAfter remaining later shorter =>
              refine inductionHypothesis (by omega) (by omega) later ?_ read
              intro reader quotation comes
              exact quotes reader quotation (.next stepped comes)
          | refuses => cases read

/-- The reader behind the anchor and the opening of the group around a pattern. -/
def opened (whole : List Char) : Reader :=
  { whole, groups := [surrounding] }

theorem run_opening (steps : Nat) (whole rest : List Char) :
    run (steps + 2) { whole } ('^' :: '(' :: '?' :: ':' :: rest) =
      run steps (opened whole) rest := rfl

theorem enclosed_opened (pattern whole : List Char) :
    Enclosed { whole := pattern } (opened whole) :=
  ⟨rfl, rfl, rfl, rfl⟩

end Reader

/-! ## Patterns -/

/-- Reading a pattern by itself, every quotation that is begun is ended. -/
def QuotationsEnd (pattern : List Char) : Prop :=
  ∀ reader quotation,
    Reader.ComesTo { whole := pattern } pattern reader ('\\' :: 'Q' :: quotation) ->
      ['\\', 'E'] <:+: quotation

theorem compile?_eq (pattern : String) :
    ∃ whole, compile? pattern =
      Reader.run (pattern.toList.length + 5) (Reader.opened whole) (pattern.toList ++ closing) >>=
        fun item => .ok item.expression := by
  have text : ("^(?:" ++ pattern ++ ")$").toList =
      '^' :: '(' :: '?' :: ':' :: (pattern.toList ++ closing) := by
    rw [String.toList_append, String.toList_append]
    rfl
  refine ⟨('^' :: '(' :: '?' :: ':' :: (pattern.toList ++ closing)), ?_⟩
  unfold compile? parse read
  rw [text, ← Reader.run_opening]
  simp only [List.length_cons, List.length_append, List.length_nil]
  rfl

/-- A pattern that is refused by itself is refused, if it is not for closing a group that it
does not open. -/
theorem compile?_of_refused
    {pattern : String}
    {problem : Problem}
    (refused : read pattern.toList = .error problem)
    (opened : ∀ piece, problem ≠ .unexpectedParenthesis piece) :
    ∃ other, compile? pattern = .error other := by
  obtain ⟨whole, compiled⟩ := compile?_eq pattern
  obtain ⟨other, run⟩ := (Reader.enclosed_opened pattern.toList whole).run_refuses opened
    (Nat.lt_succ_self _) refused
  exact ⟨other, by rw [compiled, run]; rfl⟩

/-- A pattern that is read by itself is put between anchors, if it ends its quotations and
leaves room for one more group. -/
theorem compile?_of_read
    {pattern : String}
    {item : Item}
    (quotes : QuotationsEnd pattern.toList)
    (low : item.height < heightLimit)
    (read : Regex.read pattern.toList = .ok item) :
    compile? pattern = .ok item.expression.anchored := by
  obtain ⟨whole, compiled⟩ := compile?_eq pattern
  have room : pattern.toList.length + 2 < pattern.toList.length + 5 := by omega
  obtain ⟨height, run⟩ := (Reader.enclosed_opened pattern.toList whole).run_reads low
    (Nat.lt_succ_self _) room quotes read
  rw [compiled, run]
  rfl

end Regex
end PatternMachine
