import PatternMachine.Proofs.Regex.Closing
import PatternMachine.Regex.Reader

/-!
# Reading a pattern inside a group

Two readers go along a pattern, one by itself and one inside the group between the anchors,
with the closing behind the pattern. They take the same elements to the same expressions,
as long as the pattern does not close the group around it and does not quote the closing.
Where the one by itself refuses the pattern, the other refuses it too or has run over the
end of the pattern with the group still open.
-/

namespace PatternMachine
namespace Regex

/-! ## Repetitions, switches and quotations -/

theorem takeWhile_isDigit_closing (chars : List Char) :
    (chars ++ closing).takeWhile Char.isDigit = chars.takeWhile Char.isDigit ∧
      (chars ++ closing).dropWhile Char.isDigit = chars.dropWhile Char.isDigit ++ closing := by
  induction chars with
  | nil => exact ⟨rfl, rfl⟩
  | cons c rest inductionHypothesis => cases digit : c.isDigit <;> simp [digit, inductionHypothesis]

theorem decimal?_extends (chars : List Char) :
    Extends chars (decimal? chars) (decimal? (chars ++ closing)) := by
  obtain ⟨digits, rest⟩ := takeWhile_isDigit_closing chars
  have lengths : (chars.takeWhile Char.isDigit).length + (chars.dropWhile Char.isDigit).length =
      chars.length := by
    rw [← List.length_append, List.takeWhile_append_dropWhile]
  unfold decimal?
  rw [digits, rest]
  dsimp only
  generalize chars.takeWhile Char.isDigit = taken at lengths ⊢
  split
  · exact .declines
  · exact .declines
  · rename_i nonempty _
    refine .reads ?_
    have positive := List.length_pos_iff.mpr nonempty
    omega

/-- Whether a mark comes next is not changed by the closing, if they have no character in
common. -/
theorem prefix_closing_iff
    {mark : List Char}
    (apart : ∀ c ∈ mark, c ∉ closing)
    (chars : List Char) :
    mark <+: chars ++ closing ↔ mark <+: chars := by
  induction mark generalizing chars with
  | nil => simp
  | cons first mark inductionHypothesis =>
      cases chars with
      | nil =>
          refine iff_of_false (fun starts => ?_) (by simp)
          obtain ⟨rest, same⟩ := starts
          have head := (List.cons.inj same).1
          exact apart first List.mem_cons_self (head ▸ List.mem_cons_self)
      | cons c chars =>
          rw [List.cons_append, List.cons_prefix_cons, List.cons_prefix_cons,
            inductionHypothesis fun c member => apart c (List.mem_cons_of_mem _ member)]

theorem boundsFrom?_comma
    {rest : List Char}
    (goesOn : ¬ ['}'] <+: rest)
    (least : Nat) :
    boundsFrom? least (',' :: rest) = decimal? rest >>= fun read =>
      match read.2 with
      | '}' :: after => some (.of least (some read.1), after)
      | _ => none :=
  boundsFrom?.eq_3 least rest fun after same => goesOn ⟨after, same.symm⟩

theorem boundsFrom?_extends (least : Nat) (chars : List Char) :
    Extends chars (boundsFrom? least chars) (boundsFrom? least (chars ++ closing)) := by
  match chars with
  | [] => exact .declines
  | c :: rest =>
      by_cases brace : c = '}'
      · subst brace
        exact .reads (Nat.lt_succ_self _)
      · by_cases comma : c = ','
        · subst comma
          by_cases ends : ['}'] <+: rest
          · obtain ⟨after, rfl⟩ := ends
            exact .reads (Nat.lt_succ_of_lt (Nat.lt_succ_self _))
          · have closedEnds := mt (prefix_closing_iff (by simp) rest).mp ends
            rw [List.cons_append, boundsFrom?_comma ends, boundsFrom?_comma closedEnds]
            have decimal := decimal?_extends rest
            generalize decimal? rest = alone at decimal ⊢
            generalize decimal? (rest ++ closing) = closed at decimal ⊢
            cases decimal with
            | declines => exact .declines
            | @reads most rest shorter =>
                match rest with
                | [] => exact .declines
                | c :: rest =>
                    by_cases brace : c = '}'
                    · subst brace
                      exact .reads (Nat.lt_succ_of_lt (Nat.lt_of_succ_lt shorter))
                    · have other : ∀ more : List Char, (match c :: more with
                          | '}' :: after => some (Bounds.of least (some most), after)
                          | _ => none) = none := by
                        intro more
                        split
                        · rename_i same
                          exact absurd (List.cons.inj same).1 brace
                        · rfl
                      dsimp only [bind, Option.bind, List.cons_append]
                      rw [other, other]
                      exact .declines
        · have declines : ∀ more, boundsFrom? least (c :: more) = none := by
            intro more
            rw [boundsFrom?]
            · rintro rest ⟨⟩
              exact brace rfl
            · rintro rest ⟨⟩
              exact comma rfl
            · rintro rest ⟨⟩
              exact comma rfl
          rw [List.cons_append, declines, declines]
          exact .declines

theorem bounds?_extends (chars : List Char) :
    Extends chars (bounds? chars) (bounds? (chars ++ closing)) := by
  unfold bounds?
  have decimal := decimal?_extends chars
  generalize decimal? chars = alone at decimal ⊢
  generalize decimal? (chars ++ closing) = closed at decimal ⊢
  cases decimal with
  | declines => exact .declines
  | reads shorter => exact (boundsFrom?_extends _ _).longer (Nat.le_of_lt shorter)

theorem splitLiteral_of_cons
    {c : Char}
    {rest : List Char}
    (goesOn : ¬ ['\\', 'E'] <+: c :: rest) :
    splitLiteral (c :: rest) = (c :: (splitLiteral rest).1, (splitLiteral rest).2) := by
  rw [splitLiteral]
  rintro after rfl rfl
  exact goesOn (List.prefix_append ['\\', 'E'] after)

theorem splitLiteral_closing {chars : List Char} (ends : ['\\', 'E'] <:+: chars) :
    splitLiteral (chars ++ closing) =
      ((splitLiteral chars).1, (splitLiteral chars).2 ++ closing) := by
  induction chars with
  | nil => simp at ends
  | cons c rest inductionHypothesis =>
      by_cases here : ['\\', 'E'] <+: c :: rest
      · obtain ⟨after, same⟩ := here
        rw [← same]
        rfl
      · have later := (List.infix_cons_iff.mp ends).resolve_left here
        have closedHere : ¬ ['\\', 'E'] <+: c :: (rest ++ closing) :=
          mt (prefix_closing_iff (by simp) (c :: rest)).mp here
        rw [splitLiteral_of_cons here, List.cons_append,
          splitLiteral_of_cons closedHere, inductionHypothesis later]

theorem length_splitLiteral_le (chars : List Char) :
    (splitLiteral chars).2.length ≤ chars.length := by
  induction chars with
  | nil => exact Nat.le_refl 0
  | cons c rest inductionHypothesis =>
      by_cases here : ['\\', 'E'] <+: c :: rest
      · obtain ⟨after, same⟩ := here
        rw [← same]
        exact Nat.le_add_right _ 2
      · rw [splitLiteral_of_cons here]
        exact Nat.le_succ_of_le inductionHypothesis

/-- A quotation that is left open takes the closing. -/
theorem splitLiteral_open {chars : List Char} (goesOn : ¬ ['\\', 'E'] <:+: chars) :
    (splitLiteral chars).2 = [] ∧ (splitLiteral (chars ++ closing)).2 = [] := by
  induction chars with
  | nil => exact ⟨rfl, rfl⟩
  | cons c rest inductionHypothesis =>
      rw [List.infix_cons_iff, not_or] at goesOn
      have closedHere : ¬ ['\\', 'E'] <+: c :: (rest ++ closing) :=
        mt (prefix_closing_iff (by simp) (c :: rest)).mp goesOn.1
      rw [splitLiteral_of_cons goesOn.1, List.cons_append, splitLiteral_of_cons closedHere]
      exact inductionHypothesis goesOn.2

/-- The switches that are read, before what is left. -/
theorem readSwitches_closes
    (whole closedWhole : List Char)
    (off seen : Bool)
    (switches : Switches)
    (chars : List Char) :
    Closes (· = ·) (fun read => read.1 = false) chars
      ((readSwitches whole off seen switches chars).map fun read => ((read.1, read.2.1), read.2.2))
      ((readSwitches closedWhole off seen switches (chars ++ closing)).map fun read =>
        ((read.1, read.2.1), read.2.2)) := by
  induction chars generalizing off seen switches with
  | nil =>
      refine .refuses ?_
      cases off <;> cases seen <;> first | exact .refuses | exact .runsOver rfl .anchor
  | cons c rest inductionHypothesis =>
      have later : ∀ off seen switches, Closes (· = ·) (fun read => read.1 = false) (c :: rest)
          ((readSwitches whole off seen switches rest).map fun read =>
            ((read.1, read.2.1), read.2.2))
          ((readSwitches closedWhole off seen switches (rest ++ closing)).map fun read =>
            ((read.1, read.2.1), read.2.2)) :=
        fun off seen switches => (inductionHypothesis off seen switches).longer (Nat.le_succ _)
      rw [List.cons_append, readSwitches, readSwitches]
      repeat' split
      all_goals first
        | exact later _ _ _
        | exact .bothRefuse
        | exact .reads rfl (Nat.lt_succ_self _)

/-! ## Readers -/

namespace Reader

/-- The group between anchors, behind the first of them. -/
def surrounding : Group :=
  { outer := { items := [⟨.place .textStart, 1⟩] }, switches := {}, captures := false }

/-- One reader is where the other is, but inside one more group. The place of the last
repetition is only told in errors. -/
structure Enclosed (alone closed : Reader) : Prop where
  level : closed.level = alone.level
  groups : closed.groups = alone.groups ++ [surrounding]
  switches : closed.switches = alone.switches
  lastRepeat : closed.lastRepeat.isSome = alone.lastRepeat.isSome

/-- A group is open. -/
def IsOpen (reader : Reader) : Prop :=
  reader.groups ≠ []

variable {alone closed : Reader}

theorem Enclosed.isOpen (enclosed : Enclosed alone closed) : closed.IsOpen := by
  rw [IsOpen, enclosed.groups]
  exact List.append_ne_nil_of_right_ne_nil _ (List.cons_ne_nil _ _)

theorem checkHeight_eq (reader : Reader) (item : Item) :
    reader.checkHeight item =
      if item.height > heightLimit then .error (.nestingDepth (String.ofList reader.whole))
      else .ok () := rfl

/-- What follows a check of the height. -/
theorem checkHeight_agrees
    {α β : Type}
    {related : α -> β -> Prop}
    {next : Unit -> Except Problem α}
    {closedNext : Unit -> Except Problem β}
    (item : Item)
    (agrees : Agrees related (next ()) (closedNext ())) :
    Agrees related (alone.checkHeight item >>= next) (closed.checkHeight item >>= closedNext) := by
  rw [checkHeight_eq, checkHeight_eq]
  split
  · exact .refuses
  · exact agrees

theorem push_eq (reader : Reader) (item : Item) :
    reader.push item =
      if item.height > heightLimit then .error (.nestingDepth (String.ofList reader.whole))
      else .ok { reader with
        level := { reader.level with items := item :: reader.level.items }
        lastRepeat := none } := by
  unfold push
  rw [checkHeight_eq]
  split <;> rfl

theorem push_isOpen
    {reader after : Reader}
    {item : Item}
    (pushed : reader.push item = .ok after)
    (isOpen : reader.IsOpen) :
    after.IsOpen := by
  rw [push_eq] at pushed
  split at pushed
  · cases pushed
  · cases pushed
    exact isOpen

theorem pushLiteral_isOpen
    {reader after : Reader}
    {literal : List Char}
    (pushed : reader.pushLiteral literal = .ok after)
    (isOpen : reader.IsOpen) :
    after.IsOpen := by
  induction literal generalizing reader with
  | nil =>
      cases pushed
      exact isOpen
  | cons c rest inductionHypothesis =>
      rw [pushLiteral] at pushed
      cases first : reader.pushCode c.toNat with
      | error problem =>
          rw [first] at pushed
          cases pushed
      | ok next =>
          rw [first] at pushed
          exact inductionHypothesis pushed (push_isOpen first isOpen)

namespace Enclosed

theorem push (enclosed : Enclosed alone closed) (item : Item) :
    Agrees Enclosed (alone.push item) (closed.push item) := by
  refine checkHeight_agrees item (.reads ⟨?_, enclosed.groups, enclosed.switches, rfl⟩)
  dsimp only
  rw [enclosed.level]

theorem pushCode (enclosed : Enclosed alone closed) (code : Nat) :
    Agrees Enclosed (alone.pushCode code) (closed.pushCode code) := by
  unfold Reader.pushCode
  rw [enclosed.switches]
  exact enclosed.push _

theorem pushItem (enclosed : Enclosed alone closed) (item : ClassItem) :
    Agrees Enclosed (alone.pushItem item) (closed.pushItem item) :=
  enclosed.push _

theorem pushLiteral (enclosed : Enclosed alone closed) (literal : List Char) :
    Agrees Enclosed (alone.pushLiteral literal) (closed.pushLiteral literal) := by
  induction literal generalizing alone closed with
  | nil => exact .reads ⟨enclosed.level, enclosed.groups, enclosed.switches, rfl⟩
  | cons c rest inductionHypothesis =>
      exact (enclosed.pushCode c.toNat).bind fun _ _ later => inductionHypothesis later

theorem openGroup (enclosed : Enclosed alone closed) (captures : Bool) :
    Enclosed (alone.openGroup captures) (closed.openGroup captures) := by
  refine ⟨rfl, ?_, enclosed.switches, rfl⟩
  simp only [Reader.openGroup, enclosed.level, enclosed.switches, enclosed.groups,
    List.cons_append]

theorem nextAlternative (enclosed : Enclosed alone closed) :
    Agrees Enclosed alone.nextAlternative closed.nextAlternative := by
  unfold Reader.nextAlternative
  rw [enclosed.level]
  exact checkHeight_agrees _ (.reads ⟨rfl, enclosed.groups, enclosed.switches, rfl⟩)

theorem closeGroup
    (enclosed : Enclosed alone closed)
    (opened : ∀ piece, alone.closeGroup ≠ .error (.unexpectedParenthesis piece)) :
    Agrees Enclosed alone.closeGroup closed.closeGroup := by
  unfold Reader.closeGroup at opened ⊢
  rw [enclosed.level, enclosed.groups]
  dsimp only at opened ⊢
  rw [checkHeight_eq] at opened
  rw [checkHeight_eq, checkHeight_eq]
  split
  · exact .refuses
  · rename_i low
    rw [if_neg low] at opened
    cases groups : alone.groups with
    | nil =>
        rw [groups] at opened
        exact absurd rfl (opened _)
    | cons group rest =>
        have outer : Enclosed
            { alone with level := group.outer, groups := rest, switches := group.switches }
            { closed with
              level := group.outer, groups := rest ++ [surrounding], switches := group.switches } :=
          ⟨rfl, rfl, rfl, enclosed.lastRepeat⟩
        exact outer.push _

/-- An element that is read in front of the closing. -/
theorem closes
    {chars rest : List Char}
    {first second : Except Problem Reader}
    (agrees : Agrees Enclosed first second)
    (shorter : rest.length < chars.length) :
    Closes Enclosed IsOpen chars (first >>= fun reader => .ok (reader, rest))
      (second >>= fun reader => .ok (reader, rest ++ closing)) := by
  cases agrees with
  | reads enclosed => exact .reads enclosed shorter
  | refuses => exact .bothRefuse

end Enclosed

/-! ### Groups -/

theorem namedGroup_eq (reader : Reader) (chars : List Char) (size : Nat) :
    reader.namedGroup chars size =
      if '>' ∈ chars then
        if isGroupName ((chars.takeWhile (· != '>')).drop size) then
          .ok (reader.openGroup true, (chars.dropWhile (· != '>')).drop 1)
        else .error (.namedCapture (before chars ((chars.dropWhile (· != '>')).drop 1)))
      else .error (.namedCapture (String.ofList chars)) := by
  unfold namedGroup
  by_cases ends : '>' ∈ chars
  · have contains : chars.contains '>' = true := List.contains_iff_mem.mpr ends
    simp only [contains, ends, if_true]
    cases isGroupName _ <;> rfl
  · have contains : chars.contains '>' = false :=
      Bool.eq_false_iff.mpr (mt List.contains_iff_mem.mp ends)
    simp only [contains, ends, if_false]
    rfl

theorem Enclosed.namedGroup
    (enclosed : Enclosed alone closed)
    (chars : List Char)
    (size : Nat) :
    Closes Enclosed IsOpen chars (alone.namedGroup chars size)
      (closed.namedGroup (chars ++ closing) size) := by
  rw [namedGroup_eq, namedGroup_eq]
  by_cases ends : '>' ∈ chars
  · obtain ⟨name, rest⟩ := takeWhile_closing ends
    rw [if_pos ends, if_pos (List.mem_append_left _ ends), name, rest]
    split
    · exact .reads (enclosed.openGroup true) (length_dropWhile_lt ends)
    · exact .bothRefuse
  · have closedEnds : '>' ∉ chars ++ closing := by simp [ends]
    rw [if_neg ends, if_neg closedEnds]
    exact .bothRefuse

/-- The reader behind switches, with a group open or not. -/
def switched (reader : Reader) (read : Bool × Switches) : Reader :=
  { (if read.1 then reader.openGroup false else { reader with lastRepeat := none }) with
    switches := read.2 }

theorem specialGroup_of_switches
    {rest : List Char}
    (unnamed : ¬ ['P', '<'] <+: rest ∧ ¬ ['<'] <+: rest)
    (reader : Reader) :
    reader.specialGroup ('(' :: '?' :: rest) =
      ((readSwitches ('(' :: '?' :: rest) false false reader.switches rest).map fun read =>
        ((read.1, read.2.1), read.2.2)) >>= fun read => .ok (reader.switched read.1, read.2) := by
  have same : reader.specialGroup ('(' :: '?' :: rest) =
      readSwitches ('(' :: '?' :: rest) false false reader.switches rest >>= fun read =>
        .ok (reader.switched (read.1, read.2.1), read.2.2) := by
    rw [specialGroup]
    · rfl
    · rintro c after ⟨⟩
      exact unnamed.1 (List.prefix_append ['P', '<'] _)
    · rintro c after ⟨⟩
      exact unnamed.2 (List.prefix_append ['<'] _)
  rw [same]
  cases readSwitches _ _ _ _ _ <;> rfl

theorem Enclosed.switched
    (enclosed : Enclosed alone closed)
    (read : Bool × Switches) :
    Enclosed (alone.switched read) (closed.switched read) := by
  obtain ⟨opens, switches⟩ := read
  cases opens with
  | true =>
      have opened := enclosed.openGroup false
      exact ⟨opened.level, opened.groups, rfl, opened.lastRepeat⟩
  | false => exact ⟨enclosed.level, enclosed.groups, rfl, rfl⟩

theorem Enclosed.specialGroup
    (enclosed : Enclosed alone closed)
    (rest : List Char) :
    Closes Enclosed IsOpen ('(' :: '?' :: rest) (alone.specialGroup ('(' :: '?' :: rest))
      (closed.specialGroup ('(' :: '?' :: (rest ++ closing))) := by
  have misnamed : ∀ (reader : Reader) (size : Nat) (chars : List Char), '>' ∉ chars ->
      ∃ problem, reader.namedGroup chars size = .error problem := by
    intro reader size chars ends
    rw [namedGroup_eq, if_neg ends]
    exact ⟨_, rfl⟩
  by_cases python : ['P', '<'] <+: rest
  · obtain ⟨after, rfl⟩ := python
    match after with
    | [] =>
        obtain ⟨problem, refused⟩ :=
          misnamed closed 4 ('(' :: '?' :: 'P' :: '<' :: closing) (by decide)
        have alike : closed.specialGroup ('(' :: '?' :: 'P' :: '<' :: closing) = .error problem :=
          refused
        exact alike ▸ .bothRefuse
    | c :: after => exact enclosed.namedGroup ('(' :: '?' :: 'P' :: '<' :: c :: after) 4
  · by_cases named : ['<'] <+: rest
    · obtain ⟨after, rfl⟩ := named
      match after with
      | [] =>
          obtain ⟨problem, refused⟩ := misnamed closed 3 ('(' :: '?' :: '<' :: closing) (by decide)
          have alike : closed.specialGroup ('(' :: '?' :: '<' :: closing) = .error problem :=
            refused
          exact alike ▸ .bothRefuse
      | c :: after => exact enclosed.namedGroup ('(' :: '?' :: '<' :: c :: after) 3
    · have closedUnnamed : ¬ ['P', '<'] <+: rest ++ closing ∧ ¬ ['<'] <+: rest ++ closing :=
        ⟨mt (prefix_closing_iff (by simp) rest).mp python,
          mt (prefix_closing_iff (by simp) rest).mp named⟩
      rw [specialGroup_of_switches ⟨python, named⟩, specialGroup_of_switches closedUnnamed,
        enclosed.switches]
      refine ((readSwitches_closes _ _ false false alone.switches rest).longer ?_).bind ?_ ?_
      · exact Nat.le_add_right _ 2
      · rintro read _ rest rfl shorter
        exact .reads (enclosed.switched read) shorter
      · rintro ⟨opens, switches⟩ rest rfl runs
        exact .runsOver enclosed.isOpen runs

/-! ### Repetitions -/

theorem skipLazy_closing (chars : List Char) :
    skipLazy (chars ++ closing) = skipLazy chars ++ closing := by
  match chars with
  | [] => rfl
  | c :: rest =>
      by_cases mark : c = '?'
      · subst mark
        rfl
      · have stays : ∀ more, skipLazy (c :: more) = c :: more := by
          intro more
          rw [skipLazy]
          rintro after ⟨⟩
          exact mark rfl
        rw [List.cons_append, stays, stays, List.cons_append]

theorem length_skipLazy_le (chars : List Char) : (skipLazy chars).length ≤ chars.length := by
  unfold skipLazy
  split
  · exact Nat.le_succ _
  · exact Nat.le_refl _

theorem Enclosed.repetition
    (enclosed : Enclosed alone closed)
    {chars rest : List Char}
    (shorter : rest.length < chars.length)
    (least : Nat)
    (most : Option Nat)
    (counted : Bool) :
    Closes Enclosed IsOpen chars (alone.repetition least most counted chars rest)
      (closed.repetition least most counted (chars ++ closing) (rest ++ closing)) := by
  have last := enclosed.lastRepeat
  unfold Reader.repetition
  rw [enclosed.level, skipLazy_closing]
  dsimp only
  cases again : alone.lastRepeat with
  | some place =>
      rw [again, Option.isSome_some, Option.isSome_iff_exists] at last
      obtain ⟨closedPlace, closedAgain⟩ := last
      rw [closedAgain]
      exact .bothRefuse
  | none =>
      rw [again, Option.isSome_none, Option.isSome_eq_false_iff, Option.isNone_iff_eq_none] at last
      rw [last]
      cases alone.level.items with
      | nil => exact .bothRefuse
      | cons item items =>
          dsimp only
          rw [checkHeight_eq, checkHeight_eq]
          split
          · exact .bothRefuse
          · dsimp only [bind, Except.bind]
            split
            · exact .bothRefuse
            · exact .reads ⟨rfl, enclosed.groups, enclosed.switches, rfl⟩
                (Nat.lt_of_le_of_lt (length_skipLazy_le rest) shorter)

/-! ### Escapes -/

theorem Enclosed.escaped
    (enclosed : Enclosed alone closed)
    (chars : List Char) :
    Closes Enclosed IsOpen chars (alone.escaped chars) (closed.escaped (chars ++ closing)) := by
  unfold Reader.escaped
  rw [enclosed.switches]
  have single : Closes Enclosed IsOpen chars
      (escape chars >>= fun read => alone.pushCode read.1 >>= fun reader => .ok (reader, read.2))
      (escape (chars ++ closing) >>= fun read =>
        closed.pushCode read.1 >>= fun reader => .ok (reader, read.2)) := by
    refine (escape_closes chars).bind ?_ ?_
    · rintro code _ rest rfl shorter
      exact closes (enclosed.pushCode code) shorter
    · intro code rest _ runs
      cases pushed : closed.pushCode code with
      | error problem => exact .refuses
      | ok reader => exact .runsOver (push_isOpen pushed enclosed.isOpen) runs
  have property := propertyClass_extends alone.switches.foldCase chars
  have letter := letterClass?_extends alone.switches.foldCase chars
  dsimp only
  generalize propertyClass _ chars = offered at property ⊢
  generalize propertyClass _ (chars ++ closing) = closedOffered at property ⊢
  generalize letterClass? _ chars = lettered at letter ⊢
  generalize letterClass? _ (chars ++ closing) = closedLettered at letter ⊢
  cases property with
  | refuses => exact .bothRefuse
  | reads extend =>
      cases extend with
      | @reads item rest shorter => exact closes (enclosed.pushItem item) shorter
      | declines =>
          cases letter with
          | @reads item rest shorter => exact closes (enclosed.pushItem item) shorter
          | declines => exact single

theorem backslash_of_other
    {letter : Char}
    {rest : List Char}
    (other : letter ∉ ['A', 'b', 'B', 'z', 'C', 'Q'])
    (reader : Reader) :
    reader.backslash ('\\' :: letter :: rest) = reader.escaped ('\\' :: letter :: rest) := by
  rw [backslash]
  all_goals
    rintro _ after ⟨⟩
    exact other (by decide)

theorem backslash_quotation (reader : Reader) (rest : List Char) :
    reader.backslash ('\\' :: 'Q' :: rest) =
      reader.pushLiteral (splitLiteral rest).1 >>= fun reader =>
        .ok (reader, (splitLiteral rest).2) := rfl

theorem Enclosed.backslash
    (enclosed : Enclosed alone closed)
    {rest : List Char}
    (ends : ∀ quotation, rest = 'Q' :: quotation -> ['\\', 'E'] <:+: quotation) :
    Closes Enclosed IsOpen ('\\' :: rest) (alone.backslash ('\\' :: rest))
      (closed.backslash ('\\' :: (rest ++ closing))) := by
  match rest with
  | [] => exact enclosed.escaped ['\\']
  | letter :: rest =>
      have shorter : rest.length < ('\\' :: letter :: rest).length :=
        Nat.lt_succ_of_lt (Nat.lt_succ_self _)
      by_cases known : letter ∈ ['A', 'b', 'B', 'z', 'C', 'Q']
      · simp only [List.mem_cons, List.not_mem_nil, or_false] at known
        rcases known with rfl | rfl | rfl | rfl | rfl | rfl
        · exact closes (enclosed.push _) shorter
        · exact closes (enclosed.push _) shorter
        · exact closes (enclosed.push _) shorter
        · exact closes (enclosed.push _) shorter
        · exact .bothRefuse
        · rw [List.cons_append, backslash_quotation, backslash_quotation,
            splitLiteral_closing (ends rest rfl)]
          refine closes (enclosed.pushLiteral (splitLiteral rest).1) ?_
          exact Nat.lt_of_le_of_lt (length_splitLiteral_le rest) shorter
      · rw [List.cons_append, backslash_of_other known, backslash_of_other known]
        exact enclosed.escaped ('\\' :: letter :: rest)

/-! ### Elements -/

theorem step_of_parenthesis
    {rest : List Char}
    (plain : ¬ ['?'] <+: rest)
    (reader : Reader) :
    reader.step ('(' :: rest) = .ok (reader.openGroup true, rest) := by
  rw [step]
  · rfl
  · rintro after ⟨⟩
    exact plain (List.prefix_append ['?'] after)

/-- The characters that stand for something else than themselves. -/
def marks : List Char :=
  ['(', '|', ')', '^', '$', '.', '[', '*', '+', '?', '{', '\\']

theorem step_of_plain
    {c : Char}
    (plain : c ∉ marks)
    (reader : Reader)
    (rest : List Char) :
    reader.step (c :: rest) = reader.pushCode c.toNat >>= fun reader => .ok (reader, rest) := by
  rw [step]
  · rfl
  all_goals
    intros
    subst_vars
    exact plain (by decide)

theorem Enclosed.bracket
    (enclosed : Enclosed alone closed)
    (inner : List Char) :
    Closes Enclosed IsOpen ('[' :: inner) (alone.step ('[' :: inner))
      (closed.step ('[' :: (inner ++ closing))) := by
  have classes := bracketClass_closes alone.switches.foldCase inner
  have read : ∀ (reader : Reader) (more : List Char), reader.step ('[' :: more) =
      bracketClass reader.switches.foldCase ('[' :: more) >>= fun read =>
        reader.pushLeaf (.one read.1) >>= fun after => .ok (after, read.2) := fun _ _ => rfl
  rw [read, read, enclosed.switches]
  refine classes.bind ?_ ?_
  · rintro class_ _ rest rfl shorter
    exact closes (enclosed.push _) shorter
  · intro class_ rest _ runs
    cases pushed : closed.pushLeaf (.one class_) with
    | error problem => exact .refuses
    | ok reader => exact .runsOver (push_isOpen pushed enclosed.isOpen) runs

theorem Enclosed.brace
    (enclosed : Enclosed alone closed)
    (inner : List Char) :
    Closes Enclosed IsOpen ('{' :: inner) (alone.step ('{' :: inner))
      (closed.step ('{' :: (inner ++ closing))) := by
  have bounds := bounds?_extends inner
  rw [Reader.step, Reader.step]
  generalize bounds? inner = offered at bounds ⊢
  generalize bounds? (inner ++ closing) = closedOffered at bounds ⊢
  cases bounds with
  | declines => exact closes (enclosed.pushCode _) (Nat.lt_succ_self _)
  | @reads bounds rest shorter =>
      cases bounds with
      | tooLarge => exact .bothRefuse
      | within least most => exact enclosed.repetition (Nat.lt_succ_of_lt shorter) least most true

/-- Reading an element of a pattern, if it is not a quotation that is left open or the end
of a group that the pattern does not open. -/
theorem Enclosed.step
    (enclosed : Enclosed alone closed)
    {c : Char}
    {rest : List Char}
    (quotes : ∀ quotation, c :: rest = '\\' :: 'Q' :: quotation -> ['\\', 'E'] <:+: quotation)
    (opened : ∀ piece, alone.step (c :: rest) ≠ .error (.unexpectedParenthesis piece)) :
    Closes Enclosed IsOpen (c :: rest) (alone.step (c :: rest))
      (closed.step (c :: (rest ++ closing))) := by
  have shorter : rest.length < (c :: rest).length := Nat.lt_succ_self _
  by_cases special : c ∈ marks
  · simp only [marks, List.mem_cons, List.not_mem_nil, or_false] at special
    rcases special with rfl | rfl | rfl | rfl | rfl | rfl | rfl | rfl | rfl | rfl | rfl | rfl
    · by_cases group : ['?'] <+: rest
      · obtain ⟨after, rfl⟩ := group
        exact enclosed.specialGroup after
      · rw [step_of_parenthesis group,
          step_of_parenthesis (mt (prefix_closing_iff (by simp) rest).mp group)]
        exact .reads (enclosed.openGroup true) shorter
    · exact closes enclosed.nextAlternative shorter
    · refine closes (enclosed.closeGroup fun piece refused => opened piece ?_) shorter
      change (alone.closeGroup >>= fun reader => .ok (reader, rest)) = _
      rw [refused]
      rfl
    · have read : ∀ (reader : Reader) (more : List Char), reader.step ('^' :: more) =
          reader.pushLeaf
            (.place (if reader.switches.manyLines then .lineStart else .textStart)) >>=
              fun after => .ok (after, more) := fun _ _ => rfl
      rw [read, read, enclosed.switches]
      exact closes (enclosed.push _) shorter
    · have read : ∀ (reader : Reader) (more : List Char), reader.step ('$' :: more) =
          reader.pushLeaf
            (.place (if reader.switches.manyLines then .lineEnd else .textEnd)) >>=
              fun after => .ok (after, more) := fun _ _ => rfl
      rw [read, read, enclosed.switches]
      exact closes (enclosed.push _) shorter
    · have read : ∀ (reader : Reader) (more : List Char), reader.step ('.' :: more) =
          reader.pushLeaf (.one { items := [{ ranges :=
            if reader.switches.dotNewline then [] else [(10, 10)] }], negated := true }) >>=
              fun after => .ok (after, more) := fun _ _ => rfl
      rw [read, read, enclosed.switches]
      exact closes (enclosed.push _) shorter
    · exact enclosed.bracket rest
    · exact enclosed.repetition shorter 0 none false
    · exact enclosed.repetition shorter 1 none false
    · exact enclosed.repetition shorter 0 (some 1) false
    · exact enclosed.brace rest
    · exact enclosed.backslash fun quotation same => quotes quotation (same ▸ rfl)
  · rw [step_of_plain special, step_of_plain special]
    exact closes (enclosed.pushCode c.toNat) shorter

end Reader

end Regex
end PatternMachine
