import PatternMachine.Program.Reading
import PatternMachine.Proofs.Document.Expansion

/-!
# Roles of nodes

What a node of a program is read as follows from where it stands: a term, a text, a plain
value, a sequence or a mapping. An alias is looked through where a term or a plain value is
wanted, and nowhere else: not as a key, not for a text, and not where a sequence or a
mapping has to stand.
-/

namespace PatternMachine
namespace Program

open Document (Node)

/-- What a node is read as. In a sequence the first item may play a role of its own; in a
mapping the key tells the role of the value. -/
inductive Role
  | term
  | text
  | value
  | unread
  | sequence (first others : Role)
  | record (field : String -> Role)

namespace Role

/-- A sequence of items in one role. -/
abbrev each (item : Role) : Role := sequence item item

/-- Whether an alias in a role is looked through, or not looked at. -/
def looksThrough : Role -> Bool
  | term | value | unread => true
  | text | sequence _ _ | record _ => false

/-- What the operand of a construct is read as. -/
def ofConstruct : String -> Role
  | "int" | "real" | "bool" | "str" | "function" | "escape" | "type" | "id" => text
  | "list" | "tuple" | "pair" | "head_tail" | "raw_head_tail" | "seq" | "apply" | "index"
  | "in" => each term
  | "call" | "op" => sequence text term
  | "to_list" | "raw_to_list" | "if" | "is" | "unify" => record fun _ => term
  | "named" => record fun
      | "name" => text
      | _ => term
  | "eval" | "constraint" | "quote" | "deref" | "data" => term
  | "line" => record fun _ => text
  | "foreign" => value
  | _ => unread

/-- A struct definition: its name and its members. -/
def struct : Role := record fun
  | "members" => each term
  | _ => text

/-- A statement. Its line marker is a number or names a module and a line. -/
def statement : Role := record fun
  | "struct" => struct
  | "global" => each text
  | "line" => record fun _ => text
  | _ => term

/-- A clause: its pattern and its body. -/
def clause : Role := record fun
  | "body" => each statement
  | _ => term

/-- A program: its name, the clauses of its functions, its structs and its statements. -/
def program : Role := record fun
  | "functions" => record fun _ => each clause
  | "structs" => each struct
  | "program" => each statement
  | _ => text

mutual

/-- Whether every alias in a node stands where it is looked through. -/
def admits (role : Role) (node : Node) : Bool :=
  match role, node with
  | term, .sequence _ _ items => admitsItems term term items
  | term, .mapping _ _ [(key, operand)] => !key.isAlias && admits (ofConstruct key.value) operand
  | term, .reference _ _ target => admits term target
  | value, node => node.isTransparent && !node.exceedsAliases
  | text, node => !node.isAlias
  | sequence first others, .sequence _ _ items => admitsItems first others items
  | sequence _ _, .reference _ _ _ => false
  | record field, .mapping _ _ entries => admitsEntries field entries
  | record _, .reference _ _ _ => false
  | _, _ => true

/-- Whether every alias in the items of a sequence stands where it is looked through. -/
def admitsItems (first others : Role) : List Node -> Bool
  | [] => true
  | node :: rest => admits first node && admitsItems others others rest

/-- Whether every alias in the entries of a mapping stands where it is looked through. -/
def admitsEntries (field : String -> Role) : List (Node × Node) -> Bool
  | [] => true
  | (key, node) :: rest =>
      !key.isAlias && admits (field key.value) node && admitsEntries field rest

end

variable {first others : Role} {field : String -> Role} {node : Node}

theorem plain_of_text (admitted : text.admits node) : node.isAlias = false := by
  cases node with
  | reference => cases admitted
  | _ => rfl

theorem transparent_of_value (admitted : value.admits node) :
    node.isTransparent ∧ node.exceedsAliases = false := by
  have unfolded : value.admits node = (node.isTransparent && !node.exceedsAliases) := by
    cases node <;> rfl
  rw [unfolded, Bool.and_eq_true, Bool.not_eq_true'] at admitted
  exact admitted

theorem admitsItems_of_sequence (admitted : (sequence first others).admits node) :
    admitsItems first others node.items := by
  cases node with
  | sequence => exact admitted
  | _ => rfl

theorem admitsEntries_of_record (admitted : (record field).admits node) :
    admitsEntries field node.entries := by
  cases node with
  | mapping => exact admitted
  | _ => rfl

theorem admits_of_mem
    {item : Role}
    {items : List Node}
    (admitted : admitsItems item item items) :
    ∀ node ∈ items, item.admits node := by
  induction items with
  | nil => simp
  | cons node rest inductionHypothesis =>
      obtain ⟨first, behind⟩ := Bool.and_eq_true_iff.mp admitted
      exact List.forall_mem_cons.mpr ⟨first, inductionHypothesis behind⟩

theorem plainKeys
    {entries : List (Node × Node)}
    (admitted : admitsEntries field entries) :
    ∀ entry ∈ entries, entry.1.isAlias = false := by
  induction entries with
  | nil => simp
  | cons entry rest inductionHypothesis =>
      simp only [admitsEntries, Bool.and_eq_true, Bool.not_eq_true'] at admitted
      exact List.forall_mem_cons.mpr ⟨admitted.1.1, inductionHypothesis admitted.2⟩

theorem admits_of_entry
    {entries : List (Node × Node)}
    (admitted : admitsEntries field entries) :
    ∀ entry ∈ entries, (field entry.1.value).admits entry.2 := by
  induction entries with
  | nil => simp
  | cons entry rest inductionHypothesis =>
      simp only [admitsEntries, Bool.and_eq_true, Bool.not_eq_true'] at admitted
      exact List.forall_mem_cons.mpr ⟨admitted.1.2, inductionHypothesis admitted.2⟩

/-- The value of a key plays the role of that key. -/
theorem admits_of_valueOf
    {entries : List (Node × Node)}
    {key : String}
    (admitted : admitsEntries field entries)
    (found : Read.valueOf? key entries = some node) :
    (field key).admits node := by
  obtain ⟨entry, located, rfl⟩ := Option.map_eq_some_iff.mp found
  have named := List.find?_some located
  obtain rfl : entry.1.value = key := by simpa using named
  exact admits_of_entry admitted entry (List.mem_reverse.mp (List.mem_of_find?_eq_some located))

end Role
end Program
end PatternMachine
