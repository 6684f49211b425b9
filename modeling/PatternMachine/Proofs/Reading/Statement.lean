import Mathlib.Data.List.Nodup
import PatternMachine.Proofs.Reading.Program

/-!
# What becomes of the keys of a statement

A statement is read from the values of its keys. A struct definition comes before a
declaration, and a declaration before an expression; the keys of the other forms are then
passed over, and so is a pattern without an expression. Every other key shows in what is
read, and the keys that are passed over have no influence on it.
-/

namespace PatternMachine
namespace Program

open Document (Node)

variable {α β : Type}

namespace Read

/-- A sequence of two readings succeeds if both of them do. -/
theorem bind_eq_ok
    {reading : Read α}
    {next : α -> Read β}
    {store after : Store}
    {result : β} :
    (reading >>= next) store = .ok result after ↔
      ∃ value middle, reading store = .ok value middle ∧
        next value middle = .ok result after := by
  change EStateM.bind reading next store = _ ↔ _
  unfold EStateM.bind
  cases reading store with
  | ok value middle =>
      refine ⟨fun run => ⟨value, middle, rfl, run⟩, ?_⟩
      rintro ⟨_, _, begun, run⟩
      cases begun
      exact run
  | error cause middle => simp

theorem pure_eq_ok
    {value result : α}
    {store after : Store} :
    (pure value : Read α) store = .ok result after ↔ value = result ∧ store = after := by
  change EStateM.Result.ok value store = _ ↔ _
  simp

theorem checkKeys_eq_ok
    {allowed : List String}
    {entries : List (Node × α)}
    {store after : Store}
    (checked : checkKeys allowed entries store = .ok () after) :
    after = store ∧ ∀ entry ∈ entries, entry.1.value ∈ allowed := by
  induction entries with
  | nil => exact ⟨(pure_eq_ok.mp checked).2.symm, by simp⟩
  | cons entry rest inductionHypothesis =>
      unfold checkKeys at checked
      split at checked
      · rename_i known
        obtain ⟨unchanged, others⟩ := inductionHypothesis checked
        exact ⟨unchanged, List.forall_mem_cons.mpr ⟨by simpa using known, others⟩⟩
      · cases checked

/-- Of distinct keys each has the value it is given. -/
theorem valueOf?_of_mem
    {key : Node}
    {value : α}
    {entries : List (Node × α)}
    (distinct : (entries.map fun entry => entry.1.value).Nodup)
    (held : (key, value) ∈ entries) :
    valueOf? key.value entries = some value := by
  unfold valueOf?
  obtain ⟨found, isFound⟩ : ∃ found,
      entries.reverse.find? (fun entry => entry.1.value == key.value) = some found :=
    Option.isSome_iff_exists.mp
      (List.find?_isSome.mpr ⟨(key, value), by simpa using held, by simp⟩)
  have named : found.1.value = key.value := by simpa using List.find?_some isFound
  have inside : found ∈ entries := by simpa using List.mem_of_find?_eq_some isFound
  have same : found = (key, value) := List.inj_on_of_nodup_map distinct inside held named
  rw [isFound, same]
  rfl

theorem valueOf?_eq_none_iff
    {key : String}
    {entries : List (Node × α)} :
    valueOf? key entries = none ↔ key ∉ entries.map fun entry => entry.1.value := by
  simp [valueOf?]

/-! ## The keys that are passed over -/

/-- The keys of a mapping. -/
def keysOf (entries : List (Node × α)) : List String :=
  entries.map fun entry => entry.1.value

/-- Whether a key of a statement is passed over beside other keys. -/
def isPassedOver (keys : List String) : String -> Bool
  | "global" => keys.contains "struct"
  | "expr" => keys.contains "struct" || keys.contains "global"
  | "let" => keys.contains "struct" || keys.contains "global" || !keys.contains "expr"
  | _ => false

/-- The step yields the value between two stores, and the store keeps what it made. -/
def YieldsBetween (first last : Store) (step : Read α) (value : α) : Prop :=
  ∃ before after, first.Extends first.cells.size before ∧ step before = .ok value after ∧
    after.Extends first.cells.size last

/-- How a key shows in the statements that are read. The line marker comes first, and all
other keys show in the last statement. -/
inductive ShowsKey (moduleName : String) (first last : Store) (statements : List Statement) :
    String -> Node -> Prop
  | line {node : Node} {mark : Mark} {position : Position}
      (stands : statements.head? = some (.evaluate (.lineMark mark position) .absent))
      (read : YieldsBetween first last (Operand.position moduleName node) position) :
      ShowsKey moduleName first last statements "line" node
  | struct {node : Node} {name : String} {members : List Term}
      (stands : statements.getLast? = some (.define name members))
      (read : YieldsBetween first last (struct moduleName node) (.define name members)) :
      ShowsKey moduleName first last statements "struct" node
  | globals {node : Node} {declared : List String}
      (stands : statements.getLast? = some (.declareGlobals declared))
      (read : YieldsBetween first last (names node) declared) :
      ShowsKey moduleName first last statements "global" node
  | expression {node : Node} {expression pattern : Term}
      (stands : statements.getLast? = some (.evaluate expression pattern))
      (read : YieldsBetween first last (term moduleName node) expression) :
      ShowsKey moduleName first last statements "expr" node
  | pattern {node : Node} {expression pattern : Term}
      (stands : statements.getLast? = some (.evaluate expression pattern))
      (read : YieldsBetween first last (term moduleName node) pattern) :
      ShowsKey moduleName first last statements "let" node

/-- Whether a key is there decides whether it has a value. -/
theorem contains_keysOf (key : String) (entries : List (Node × α)) :
    (keysOf entries).contains key = (valueOf? key entries).isSome := by
  rw [Bool.eq_iff_iff, List.contains_iff_mem, Option.isSome_iff_ne_none, ne_eq,
    valueOf?_eq_none_iff, Classical.not_not]
  rfl

/-- What is passed over, by the keys that have a value. -/
theorem isPassedOver_keysOf (key : String) (entries : List (Node × α)) :
    isPassedOver (keysOf entries) key =
      match key with
      | "global" => (valueOf? "struct" entries).isSome
      | "expr" => (valueOf? "struct" entries).isSome || (valueOf? "global" entries).isSome
      | "let" => (valueOf? "struct" entries).isSome || (valueOf? "global" entries).isSome ||
          !(valueOf? "expr" entries).isSome
      | _ => false := by
  simp only [isPassedOver, contains_keysOf]

theorem valueOf?_filter
    (keep : String -> Bool)
    (key : String)
    (entries : List (Node × α)) :
    valueOf? key (entries.filter fun entry => keep entry.1.value) =
      if keep key then valueOf? key entries else none := by
  have found : ∀ reversed : List (Node × α),
      (reversed.filter fun entry => keep entry.1.value).find? (·.1.value == key) =
        if keep key then reversed.find? (·.1.value == key) else none := by
    intro reversed
    induction reversed with
    | nil => simp
    | cons entry rest inductionHypothesis =>
        by_cases named : entry.1.value = key
        · cases kept : keep key with
          | true => simp [named, kept]
          | false => simpa [named, kept] using inductionHypothesis
        · cases kept : keep entry.1.value with
          | true => simpa [named, kept] using inductionHypothesis
          | false => simpa [named, kept] using inductionHypothesis
  unfold valueOf?
  rw [← List.filter_reverse, found]
  split
  · rfl
  · rfl

/-- Keys that are allowed can be left out before the keys are checked. -/
theorem checkKeys_filter
    (allowed : List String)
    (keep : String -> Bool)
    (known : ∀ key, keep key = false -> key ∈ allowed)
    (entries : List (Node × α)) :
    checkKeys allowed (entries.filter fun entry => keep entry.1.value) =
      checkKeys allowed entries := by
  induction entries with
  | nil => rfl
  | cons entry rest inductionHypothesis =>
      rw [List.filter_cons]
      cases kept : keep entry.1.value with
      | true => simp [checkKeys, inductionHypothesis]
      | false => simp [checkKeys, inductionHypothesis, known _ kept]

theorem isPassedOver_known
    {keys : List String}
    {key : String}
    (passedOver : isPassedOver keys key = true) :
    key ∈ ["line", "expr", "let", "struct", "global"] := by
  unfold isPassedOver at passedOver
  split at passedOver
  · simp
  · simp
  · simp
  · cases passedOver

theorem statement_mapping
    (moduleName tag : String)
    (line : Nat)
    (entries : List (Node × Node)) :
    statement moduleName (.mapping line tag entries) = (do
      checkKeys ["line", "expr", "let", "struct", "global"] entries
      let marker ← match valueOf? "line" entries with
        | some line => do pure [← lineMarker moduleName line]
        | none => pure []
      return marker ++ (← unmarkedStatement moduleName (.mapping line tag entries) entries)) := by
  unfold statement fields
  refine (bind_assoc _ _ _).trans ?_
  rfl

theorem unmarkedStatement_filter
    (moduleName : String)
    (node : Node)
    (entries : List (Node × Node)) :
    unmarkedStatement moduleName node
        (entries.filter fun entry => !isPassedOver (keysOf entries) entry.1.value) =
      unmarkedStatement moduleName node entries := by
  have value := fun key =>
    valueOf?_filter (fun key => !isPassedOver (keysOf entries) key) key entries
  unfold unmarkedStatement
  rw [value "struct", value "global", value "expr", value "let", value "line"]
  simp only [isPassedOver_keysOf]
  cases valueOf? "struct" entries with
  | some definition => rfl
  | none =>
      cases valueOf? "global" entries with
      | some declared => rfl
      | none =>
          cases valueOf? "expr" entries with
          | some expression => rfl
          | none => rfl

/-- What is passed over has no influence on what is read. -/
theorem statement_filter
    (moduleName tag : String)
    (line : Nat)
    (entries : List (Node × Node)) :
    statement moduleName (.mapping line tag
        (entries.filter fun entry => !isPassedOver (keysOf entries) entry.1.value)) =
      statement moduleName (.mapping line tag entries) := by
  have checked := checkKeys_filter ["line", "expr", "let", "struct", "global"]
    (fun key => !isPassedOver (keysOf entries) key)
    (fun key dropped => isPassedOver_known (by simpa using dropped)) entries
  have marked : valueOf? "line"
      (entries.filter fun entry => !isPassedOver (keysOf entries) entry.1.value) =
        valueOf? "line" entries :=
    valueOf?_filter (fun key => !isPassedOver (keysOf entries) key) "line" entries
  rw [statement_mapping, statement_mapping, checked, marked]
  simp only [unmarkedStatement_filter]
  rfl

/-! ## Where the other keys show -/

/-- A last statement stays the last behind others. -/
theorem getLast?_append_of_some
    {marker statements : List Statement}
    {last : Statement}
    (stands : statements.getLast? = some last) :
    (marker ++ statements).getLast? = some last := by
  rw [List.getLast?_append, stands]
  rfl

section Shows

variable {moduleName : String} {first store after : Store} {node : Node}
  {entries : List (Node × Node)} {statements : List Statement}

/-- A line marker shows in front of the other statements. -/
theorem lineMarker_shows
    {line : Node}
    {marker : Statement}
    {middle : Store}
    (run : lineMarker moduleName line first = .ok marker middle)
    (kept : middle.Extends first.cells.size after) :
    ShowsKey moduleName first after (marker :: statements) "line" line := by
  obtain ⟨position, positioned, read, run⟩ := bind_eq_ok.mp run
  obtain ⟨mark, marked, drawn, run⟩ := bind_eq_ok.mp run
  obtain ⟨rfl, rfl⟩ := pure_eq_ok.mp run
  have room := Nat.le_refl first.cells.size
  have extended := (Operand.Inert.position _ _ _ room room read).1
  have drawnAfter := (Inert.mark _ _ _ extended.size extended.size drawn).1
  exact .line rfl ⟨first, positioned, .refl first, read, drawnAfter.trans kept⟩

/-- What is read as a struct definition defines a struct. -/
theorem struct_defines
    {statement : Statement}
    (run : struct moduleName node store = .ok statement after) :
    ∃ name members, statement = .define name members := by
  obtain ⟨entries, _, _, run⟩ := bind_eq_ok.mp run
  cases named : valueOf? "name" entries with
  | none =>
      rw [named] at run
      cases run
  | some name =>
      rw [named] at run
      obtain ⟨name, _, _, run⟩ := bind_eq_ok.mp run
      cases held : valueOf? "members" entries with
      | none =>
          rw [held] at run
          exact ⟨name, [], (pure_eq_ok.mp run).1.symm⟩
      | some members =>
          rw [held] at run
          obtain ⟨members, _, _, run⟩ := bind_eq_ok.mp run
          exact ⟨name, members, (pure_eq_ok.mp run).1.symm⟩

/-- The forms of a statement without its line marker. -/
inductive Form (moduleName : String) (entries : List (Node × Node)) (store after : Store) :
    List Statement -> Prop
  | struct {definition : Node} {name : String} {members : List Term}
      (held : valueOf? "struct" entries = some definition)
      (read : struct moduleName definition store = .ok (.define name members) after) :
      Form moduleName entries store after [.define name members]
  | globals {node : Node} {declared : List String}
      (noStruct : valueOf? "struct" entries = none)
      (held : valueOf? "global" entries = some node)
      (read : names node store = .ok declared after) :
      Form moduleName entries store after [.declareGlobals declared]
  | expression {node : Node} {expression : Term}
      (noStruct : valueOf? "struct" entries = none)
      (noGlobals : valueOf? "global" entries = none)
      (held : valueOf? "expr" entries = some node)
      (unmatched : valueOf? "let" entries = none)
      (read : term moduleName node store = .ok expression after) :
      Form moduleName entries store after [.evaluate expression .absent]
  | match {node patternNode : Node} {expression pattern : Term} {middle : Store}
      (noStruct : valueOf? "struct" entries = none)
      (noGlobals : valueOf? "global" entries = none)
      (held : valueOf? "expr" entries = some node)
      (matched : valueOf? "let" entries = some patternNode)
      (read : term moduleName node store = .ok expression middle)
      (readPattern : term moduleName patternNode middle = .ok pattern after) :
      Form moduleName entries store after [.evaluate expression pattern]
  | nothing
      (noStruct : valueOf? "struct" entries = none)
      (noGlobals : valueOf? "global" entries = none)
      (noExpression : valueOf? "expr" entries = none)
      (marked : (valueOf? "line" entries).isSome = true)
      (unchanged : store = after) :
      Form moduleName entries store after []

/-- What is read without a line marker has one of the forms. -/
theorem unmarkedStatement_form
    (run : unmarkedStatement moduleName node entries store = .ok statements after) :
    Form moduleName entries store after statements := by
  unfold unmarkedStatement at run
  cases defined : valueOf? "struct" entries with
  | some definition =>
      rw [defined] at run
      obtain ⟨statement, _, read, run⟩ := bind_eq_ok.mp run
      obtain ⟨rfl, rfl⟩ := pure_eq_ok.mp run
      obtain ⟨name, members, rfl⟩ := struct_defines read
      exact .struct defined read
  | none =>
  cases named : valueOf? "global" entries with
  | some globals =>
      rw [defined, named] at run
      obtain ⟨declared, _, read, run⟩ := bind_eq_ok.mp run
      obtain ⟨rfl, rfl⟩ := pure_eq_ok.mp run
      exact .globals defined named read
  | none =>
  cases evaluated : valueOf? "expr" entries with
  | some expressionNode =>
      rw [defined, named, evaluated] at run
      obtain ⟨expression, middle, read, run⟩ := bind_eq_ok.mp run
      cases matched : valueOf? "let" entries with
      | none =>
          rw [matched] at run
          obtain ⟨rfl, rfl⟩ := pure_eq_ok.mp run
          exact .expression defined named evaluated matched read
      | some patternNode =>
          rw [matched] at run
          obtain ⟨pattern, _, readPattern, run⟩ := bind_eq_ok.mp run
          obtain ⟨rfl, rfl⟩ := pure_eq_ok.mp run
          exact .match defined named evaluated matched read readPattern
  | none =>
      rw [defined, named, evaluated] at run
      cases marked : (valueOf? "line" entries).isSome with
      | true =>
          rw [marked] at run
          obtain ⟨rfl, unchanged⟩ := pure_eq_ok.mp run
          exact .nothing defined named evaluated marked unchanged
      | false =>
          rw [marked] at run
          cases run

/-- Each key that is not passed over shows in the statement behind the marker. -/
theorem Form.shows
    {key : String}
    {part : Node}
    (form : Form moduleName entries store after statements)
    (marker : List Statement)
    (grown : first.Extends first.cells.size store)
    (valued : valueOf? key entries = some part)
    (counts : isPassedOver (keysOf entries) key = false)
    (known : key ∈ ["expr", "let", "struct", "global"]) :
    ShowsKey moduleName first after (marker ++ statements) key part := by
  rw [isPassedOver_keysOf] at counts
  simp only [List.mem_cons, List.not_mem_nil, or_false] at known
  cases form with
  | struct held read =>
      obtain rfl : key = "struct" := by
        obtain rfl | rfl | rfl | rfl := known
        all_goals simp_all
      cases held.symm.trans valued
      exact .struct (getLast?_append_of_some rfl) ⟨store, _, grown, read, .refl _⟩
  | globals noStruct held read =>
      obtain rfl : key = "global" := by
        obtain rfl | rfl | rfl | rfl := known
        all_goals simp_all
      cases held.symm.trans valued
      exact .globals (getLast?_append_of_some rfl) ⟨store, _, grown, read, .refl _⟩
  | expression noStruct noGlobals held unmatched read =>
      obtain rfl : key = "expr" := by
        obtain rfl | rfl | rfl | rfl := known
        all_goals simp_all
      cases held.symm.trans valued
      exact .expression (getLast?_append_of_some rfl) ⟨store, _, grown, read, .refl _⟩
  | «match» noStruct noGlobals held matched read readPattern =>
      have evaluated := (term_inert moduleName _ _ _ _ _ grown.size grown.size read).1
      have grownMiddle := grown.trans evaluated
      have kept :=
        (term_inert moduleName _ _ _ _ _ grownMiddle.size grownMiddle.size readPattern).1
      obtain rfl | rfl | rfl | rfl := known
      · cases held.symm.trans valued
        exact .expression (getLast?_append_of_some rfl) ⟨store, _, grown, read, kept⟩
      · cases matched.symm.trans valued
        exact .pattern (getLast?_append_of_some rfl) ⟨_, _, grownMiddle, readPattern, .refl _⟩
      all_goals simp_all
  | nothing noStruct noGlobals noExpression marked unchanged =>
      obtain rfl | rfl | rfl | rfl := known
      all_goals simp_all

/-- Without a line marker there is a statement. -/
theorem Form.ne_nil
    (form : Form moduleName entries store after statements)
    (unmarked : valueOf? "line" entries = none) :
    statements ≠ [] := by
  cases form with
  | nothing noStruct noGlobals noExpression marked unchanged => simp [unmarked] at marked
  | _ => simp

/-- A statement is read as its line marker, if it has one, and then without it. -/
theorem statement_eq_ok
    {tag : String}
    {line : Nat}
    (run : statement moduleName (.mapping line tag entries) store = .ok statements after) :
    (∀ entry ∈ entries, entry.1.value ∈ ["line", "expr", "let", "struct", "global"]) ∧
    ∃ marker unmarked middle, statements = marker ++ unmarked ∧
      unmarkedStatement moduleName (.mapping line tag entries) entries middle =
        .ok unmarked after ∧
      (valueOf? "line" entries = none ∧ marker = [] ∧ store = middle ∨
        ∃ line mark, valueOf? "line" entries = some line ∧ marker = [mark] ∧
          lineMarker moduleName line store = .ok mark middle) := by
  rw [statement_mapping] at run
  obtain ⟨_, _, checked, rest⟩ := bind_eq_ok.mp run
  obtain ⟨rfl, allowed⟩ := checkKeys_eq_ok checked
  refine ⟨allowed, ?_⟩
  cases marked : valueOf? "line" entries with
  | none =>
      simp only [marked, pure_bind] at rest
      obtain ⟨unmarked, _, read, ended⟩ := bind_eq_ok.mp rest
      obtain ⟨rfl, rfl⟩ := pure_eq_ok.mp ended
      exact ⟨[], unmarked, _, rfl, read, .inl ⟨rfl, rfl, rfl⟩⟩
  | some line =>
      simp only [marked, pure_bind] at rest
      obtain ⟨mark, _, readMark, rest⟩ := bind_eq_ok.mp rest
      obtain ⟨unmarked, _, read, ended⟩ := bind_eq_ok.mp rest
      obtain ⟨rfl, rfl⟩ := pure_eq_ok.mp ended
      exact ⟨[mark], unmarked, _, rfl, read, .inr ⟨line, mark, rfl, rfl, readMark⟩⟩

/-- Of distinct keys each that is not passed over shows in what is read, and what is passed
over has no influence on it. What is read is never empty. -/
theorem statement_shows
    {tag : String}
    {line : Nat}
    (distinct : (keysOf entries).Nodup)
    (run : statement moduleName (.mapping line tag entries) store = .ok statements after) :
    (∀ key part, (key, part) ∈ entries -> isPassedOver (keysOf entries) key.value = false ->
      ShowsKey moduleName store after statements key.value part) ∧
    statement moduleName (.mapping line tag
      (entries.filter fun entry => !isPassedOver (keysOf entries) entry.1.value)) store =
        .ok statements after ∧
    statements ≠ [] := by
  have filtered := (statement_filter moduleName tag line entries).symm ▸ run
  obtain ⟨allowed, marker, unmarked, middle, rfl, read, marked⟩ := statement_eq_ok run
  have form := unmarkedStatement_form read
  refine ⟨?_, filtered, ?_⟩
  · intro key part held counts
    have valued := valueOf?_of_mem distinct held
    have inside := List.mem_cons.mp (allowed _ held)
    obtain ⟨unmarked, rfl, rfl⟩ | ⟨line, mark, marked, rfl, readMark⟩ := marked
    · obtain named | other := inside
      · cases (named ▸ valued).symm.trans unmarked
      · exact form.shows [] (.refl _) valued counts other
    · have room := Nat.le_refl store.cells.size
      have grown := (Inert.lineMarker _ _ _ room room readMark).1
      obtain named | other := inside
      · rw [named] at valued ⊢
        cases marked.symm.trans valued
        exact lineMarker_shows readMark
          (Inert.unmarkedStatement _ _ _ grown.size grown.size read).1
      · exact form.shows [mark] grown valued counts other
  · obtain ⟨unmarked, rfl, rfl⟩ | ⟨line, mark, marked, rfl, readMark⟩ := marked
    · exact form.ne_nil unmarked
    · simp

end Shows

/-- Beside a line marker a pattern without an expression is passed over. -/
theorem statement_shows_of_lonePattern :
    let text := fun value => Node.scalar 2 Document.textTag value
    let line := Node.scalar 2 Document.integerTag "7"
    let pattern := Node.mapping 2 Document.mappingTag [(text "id", text "x")]
    let entries := [(text "line", line), (text "let", pattern)]
    let marked := [Statement.evaluate (.lineMark 1 { moduleName := "main", line := 7 }) .absent]
    let after := { Store.initial with nextMark := 2 }
    (keysOf entries).Nodup ∧
      statement "main" (.mapping 2 Document.mappingTag entries) Store.initial =
        .ok marked after ∧
      ShowsKey "main" Store.initial after marked "line" line ∧
      isPassedOver (keysOf entries) "let" = true ∧
      statement "main" (.mapping 2 Document.mappingTag [(text "line", line)]) Store.initial =
        .ok marked after := by
  intro text line pattern entries marked after
  have distinct : (keysOf entries).Nodup := by decide
  have run : statement "main" (.mapping 2 Document.mappingTag entries) Store.initial =
      .ok marked after := by
    dsimp only [entries, pattern, line, text]
    rfl
  obtain ⟨shows, filtered, _⟩ := statement_shows distinct run
  exact ⟨distinct, run, shows (text "line") line (.head _) rfl, rfl, filtered⟩

end Read
end Program
end PatternMachine
