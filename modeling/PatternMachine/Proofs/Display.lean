import PatternMachine.Proofs.Equality
import PatternMachine.Proofs.Number.Numeral
import PatternMachine.Proofs.Text.Quoted

/-!
# Display is unambiguous inside containers

Lists and tuples of integers, booleans, texts, none, nil and further lists and tuples are
shown in a language with unique readability: the first character of a part tells what the
part is, and each part tells where it ends. A numeral ends at the comma or bracket behind it,
and a text at its closing quote, whatever commas, brackets and quotes the text holds.
-/

namespace PatternMachine

/-! ## Numerals -/

namespace Number

/-- The numeral of an integer tells the integer. -/
theorem numeral_injective
    {whole other : Int}
    (same : numeral (decide (whole < 0)) whole.natAbs = numeral (decide (other < 0)) other.natAbs) :
    whole = other := by
  have split := congrArg splitSign same
  rw [splitSign_numeral, splitSign_numeral, Prod.mk.injEq, decide_eq_decide] at split
  obtain ⟨signs, digits⟩ := split
  have sizes := congrArg (Nat.ofDigitChars 10 · 0) digits
  simp only [Nat.ofDigitChars_ten_toDigits] at sizes
  omega

/-- A numeral holds a minus sign and digits only. -/
theorem mem_numeral
    {negative : Bool}
    {size : Nat}
    {c : Char}
    (member : c ∈ numeral negative size) :
    c = '-' ∨ c.isDigit = true := by
  rcases List.mem_append.mp member with sign | digit
  · cases negative with
    | true => exact .inl (List.mem_singleton.mp sign)
    | false => cases sign
  · exact .inr (isDigit_of_mem_toDigits c digit)

theorem numeral_ne_nil (negative : Bool) (size : Nat) : numeral negative size ≠ [] := by
  simp [numeral, Nat.toDigits_ne_nil]

end Number

/-! ## Trees of containers -/

namespace Tree

/-- A tree built from integers, booleans, texts, none, nil, lists and tuples. -/
inductive Built : Tree -> Prop
  | integer (value : Int64) : Built (node (.integer value) [])
  | boolean (value : Bool) : Built (node (.boolean value) [])
  | text (value : String) : Built (node (.text value) [])
  | none : Built (node .none [])
  | nil : Built (node .nil [])
  | list (parts : List Tree) (built : ∀ part ∈ parts, Built part) : Built (node .list parts)
  | tuple (parts : List Tree) (built : ∀ part ∈ parts, Built part) : Built (node .tuple parts)

/-- The characters of a tree as it is shown inside another one. -/
def chars (tree : Tree) : List Char :=
  tree.shown.toList

/-- The characters of parts with a comma in front of each. -/
def listed (parts : List Tree) : List Char :=
  parts.flatMap fun part => ',' :: part.chars

/-- The characters of the parts of a container. -/
def joined : List Tree -> List Char
  | [] => []
  | first :: rest => first.chars ++ listed rest

theorem toList_commaSeparated (parts : List Tree) :
    (commaSeparated (shownAll parts)).toList = joined parts := by
  cases parts with
  | nil => rfl
  | cons first rest =>
      induction rest generalizing first with
      | nil => simp [commaSeparated, shownAll, joined, listed, chars]
      | cons second rest inductionHypothesis =>
          have behind := inductionHypothesis second
          simp only [commaSeparated, shownAll, String.toList_intercalate, List.map_cons,
            List.intercalate_cons_cons] at behind ⊢
          rw [behind]
          simp [joined, listed, chars]

theorem chars_integer (value : Int64) (parts : List Tree) :
    (node (.integer value) parts).chars =
      Number.numeral (decide (value.toInt < 0)) value.toInt.natAbs :=
  Number.toList_toString value.toInt

theorem chars_boolean (value : Bool) (parts : List Tree) :
    (node (.boolean value) parts).chars =
      if value then ['t', 'r', 'u', 'e'] else ['f', 'a', 'l', 's', 'e'] := by
  have shows : (node (.boolean value) parts).shown = if value then "true" else "false" := rfl
  rw [chars, shows]
  cases value <;> decide

theorem chars_text (value : String) (parts : List Tree) :
    (node (.text value) parts).chars = (Text.quoted value).toList := rfl

theorem chars_none (parts : List Tree) :
    (node .none parts).chars = ['n', 'o', 'n', 'e'] := by
  have shows : (node .none parts).shown = "none" := rfl
  rw [chars, shows]
  decide

theorem chars_nil (parts : List Tree) :
    (node .nil parts).chars = ['n', 'i', 'l'] := by
  have shows : (node .nil parts).shown = "nil" := rfl
  rw [chars, shows]
  decide

theorem chars_list (parts : List Tree) :
    (node .list parts).chars = '[' :: (joined parts ++ [']']) := by
  have shows : (node .list parts).shown = "[" ++ commaSeparated (shownAll parts) ++ "]" := rfl
  rw [chars, shows]
  simp [toList_commaSeparated]

theorem chars_tuple (parts : List Tree) :
    (node .tuple parts).chars = '(' :: (joined parts ++ [')']) := by
  have shows : (node .tuple parts).shown = "(" ++ commaSeparated (shownAll parts) ++ ")" := rfl
  rw [chars, shows]
  simp [toList_commaSeparated]

/-! ## Unique readability -/

/-- Whether a character can only stand behind a part of a container. -/
def endsPart (c : Char) : Bool :=
  c == ',' || c == ']' || c == ')'

/-- What follows a part of a container: nothing, or a character that ends the part. -/
def Follows (rest : List Char) : Prop :=
  ∀ c ∈ rest.head?, endsPart c = true

/-- What a part is by its first character. None stands for nil, too. -/
def leading (c : Char) : Kind :=
  if c == '[' then .list
  else if c == '(' then .tuple
  else if c == '"' then .text
  else if c == 't' || c == 'f' then .boolean
  else if c == 'n' then .none
  else .integer

theorem leading_of_mem_numeral
    {negative : Bool}
    {size : Nat}
    {c : Char}
    (member : c ∈ Number.numeral negative size) :
    leading c = .integer ∧ endsPart c = false := by
  rcases Number.mem_numeral member with rfl | digit
  · exact ⟨rfl, rfl⟩
  · have digits := Number.mem_decimalDigits digit
    simp only [Number.decimalDigits, List.mem_cons, List.not_mem_nil, or_false] at digits
    rcases digits with rfl | rfl | rfl | rfl | rfl | rfl | rfl | rfl | rfl | rfl <;>
      exact ⟨rfl, rfl⟩

/-- The kind of a built tree as its first character tells it. -/
def lead (tree : Tree) : Kind :=
  match tree.shape with
  | .integer _ => .integer
  | .boolean _ => .boolean
  | .text _ => .text
  | .list => .list
  | .tuple => .tuple
  | _ => .none

/-- The first character of a part tells what the part is, and ends no part. -/
theorem Built.chars_eq_cons
    {tree : Tree}
    (built : tree.Built) :
    ∃ c rest, tree.chars = c :: rest ∧ leading c = tree.lead ∧ endsPart c = false := by
  cases built with
  | integer value =>
      rw [chars_integer]
      obtain ⟨c, rest, same⟩ := List.exists_cons_of_ne_nil
        (Number.numeral_ne_nil (decide (value.toInt < 0)) value.toInt.natAbs)
      exact ⟨c, rest, same, leading_of_mem_numeral (same ▸ List.mem_cons_self)⟩
  | boolean value =>
      rw [chars_boolean]
      cases value <;> exact ⟨_, _, rfl, rfl, rfl⟩
  | text value =>
      rw [chars_text, Text.quoted, String.toList_ofList]
      exact ⟨_, _, rfl, rfl, rfl⟩
  | none => exact ⟨_, _, chars_none [], rfl, rfl⟩
  | nil => exact ⟨_, _, chars_nil [], rfl, rfl⟩
  | list parts => exact ⟨_, _, chars_list parts, rfl, rfl⟩
  | tuple parts => exact ⟨_, _, chars_tuple parts, rfl, rfl⟩

/-- Parts whose texts start alike are of one kind. -/
theorem Built.lead_eq
    {left right : Tree}
    {rest otherRest : List Char}
    (leftBuilt : left.Built)
    (rightBuilt : right.Built)
    (same : left.chars ++ rest = right.chars ++ otherRest) :
    left.lead = right.lead := by
  obtain ⟨c, more, leftChars, leftLead, _⟩ := leftBuilt.chars_eq_cons
  obtain ⟨d, others, rightChars, rightLead, _⟩ := rightBuilt.chars_eq_cons
  rw [leftChars, rightChars] at same
  rw [← leftLead, ← rightLead, (List.cons.inj same).1]

/-- Characters that end no part tell where they end, when something that follows a part
stands behind them. -/
theorem eq_of_append_follows
    {chars others rest otherRest : List Char}
    (inside : ∀ c ∈ chars, endsPart c = false)
    (othersInside : ∀ c ∈ others, endsPart c = false)
    (follows : Follows rest)
    (otherFollows : Follows otherRest)
    (same : chars ++ rest = others ++ otherRest) :
    chars = others ∧ rest = otherRest := by
  rcases List.append_eq_append_iff.mp same with ⟨between, rfl, rfl⟩ | ⟨between, rfl, rfl⟩
  · cases between with
    | nil => simp
    | cons c between =>
        have ends := follows c rfl
        rw [othersInside c (by simp)] at ends
        cases ends
  · cases between with
    | nil => simp
    | cons c between =>
        have ends := otherFollows c rfl
        rw [inside c (by simp)] at ends
        cases ends

/-- The tree can be read: its characters in front of something that follows a part tell the
tree and what follows. -/
def Readable (tree : Tree) : Prop :=
  ∀ (other : Tree) (rest otherRest : List Char), other.Built -> Follows rest -> Follows otherRest ->
    tree.chars ++ rest = other.chars ++ otherRest -> tree = other ∧ rest = otherRest

/-- A closing bracket. -/
def IsClosing (c : Char) : Prop :=
  c = ']' ∨ c = ')'

variable {parts others : List Tree} {closing : Char} {rest otherRest : List Char}

theorem IsClosing.ne_comma (isClosing : IsClosing closing) : closing ≠ ',' := by
  rcases isClosing with rfl | rfl <;> decide

theorem IsClosing.endsPart (isClosing : IsClosing closing) : endsPart closing = true := by
  rcases isClosing with rfl | rfl <;> rfl

theorem follows_listed (isClosing : IsClosing closing) :
    Follows (listed parts ++ closing :: rest) := by
  intro c first
  cases parts with
  | nil =>
      obtain rfl := Option.some.inj first
      exact isClosing.endsPart
  | cons part parts =>
      obtain rfl := Option.some.inj first
      rfl

/-- Parts with commas in front, up to a closing bracket, tell the parts. -/
theorem eq_of_listed
    (readable : ∀ part ∈ parts, part.Readable)
    (built : ∀ part ∈ others, part.Built)
    (isClosing : IsClosing closing)
    (same : listed parts ++ closing :: rest = listed others ++ closing :: otherRest) :
    parts = others ∧ rest = otherRest := by
  induction parts generalizing others with
  | nil =>
      cases others with
      | nil => exact ⟨rfl, (List.cons.inj same).2⟩
      | cons other others => exact absurd (List.cons.inj same).1 isClosing.ne_comma
  | cons part parts inductionHypothesis =>
      obtain ⟨readablePart, readableParts⟩ := List.forall_mem_cons.mp readable
      cases others with
      | nil => exact absurd (List.cons.inj same).1.symm isClosing.ne_comma
      | cons other others =>
          obtain ⟨builtOther, builtOthers⟩ := List.forall_mem_cons.mp built
          simp only [listed, List.flatMap_cons, List.cons_append, List.append_assoc,
            List.cons.injEq, true_and] at same
          obtain ⟨rfl, behind⟩ := readablePart other _ _ builtOther (follows_listed isClosing)
            (follows_listed isClosing) same
          obtain ⟨rfl, rfl⟩ := inductionHypothesis readableParts builtOthers behind
          exact ⟨rfl, rfl⟩

/-- The parts of a container, up to its closing bracket, tell the parts. -/
theorem eq_of_joined
    (partsBuilt : ∀ part ∈ parts, part.Built)
    (readable : ∀ part ∈ parts, part.Readable)
    (built : ∀ part ∈ others, part.Built)
    (isClosing : IsClosing closing)
    (same : joined parts ++ closing :: rest = joined others ++ closing :: otherRest) :
    parts = others ∧ rest = otherRest := by
  -- Where one list is empty its closing bracket would be the first character of a part.
  have apart : ∀ {part : Tree} {closing : Char} {more rest : List Char}, part.Built ->
      IsClosing closing -> closing :: rest ≠ part.chars ++ more := by
    intro part closing more rest built isClosing same
    obtain ⟨c, behind, chars, _, inside⟩ := built.chars_eq_cons
    rw [chars] at same
    obtain ⟨rfl, _⟩ := List.cons.inj same
    rw [isClosing.endsPart] at inside
    cases inside
  cases parts with
  | nil =>
      cases others with
      | nil => exact ⟨rfl, (List.cons.inj same).2⟩
      | cons other others =>
          rw [joined, joined, List.append_assoc] at same
          exact absurd same (apart (built other List.mem_cons_self) isClosing)
  | cons part parts =>
      obtain ⟨readablePart, readableParts⟩ := List.forall_mem_cons.mp readable
      cases others with
      | nil =>
          rw [joined, joined, List.append_assoc] at same
          exact absurd same.symm (apart (partsBuilt part List.mem_cons_self) isClosing)
      | cons other others =>
          obtain ⟨builtOther, builtOthers⟩ := List.forall_mem_cons.mp built
          rw [joined, joined, List.append_assoc, List.append_assoc] at same
          obtain ⟨rfl, behind⟩ := readablePart other _ _ builtOther (follows_listed isClosing)
            (follows_listed isClosing) same
          obtain ⟨rfl, rfl⟩ := eq_of_listed readableParts builtOthers isClosing behind
          exact ⟨rfl, rfl⟩

/-- What stands between an opening and a closing bracket tells the parts. -/
theorem eq_of_enclosed
    {opening : Char}
    (partsBuilt : ∀ part ∈ parts, part.Built)
    (readable : ∀ part ∈ parts, part.Readable)
    (built : ∀ part ∈ others, part.Built)
    (isClosing : IsClosing closing)
    (same : opening :: (joined parts ++ [closing]) ++ rest =
      opening :: (joined others ++ [closing]) ++ otherRest) :
    parts = others ∧ rest = otherRest := by
  simp only [List.cons_append, List.append_assoc, List.nil_append, List.cons.injEq,
    true_and] at same
  exact eq_of_joined partsBuilt readable built isClosing same

/-- A tree that is built can be read. -/
theorem Built.readable
    {tree : Tree}
    (built : tree.Built) :
    tree.Readable := by
  induction built with
  | integer value =>
      intro other rest otherRest otherBuilt follows otherFollows same
      have kinds := (Built.integer value).lead_eq otherBuilt same
      cases otherBuilt with
      | integer otherValue =>
          rw [chars_integer, chars_integer] at same
          obtain ⟨numerals, behind⟩ := eq_of_append_follows
            (fun _ member => (leading_of_mem_numeral member).2)
            (fun _ member => (leading_of_mem_numeral member).2) follows otherFollows same
          rw [Int64.toInt_inj.mp (Number.numeral_injective numerals)]
          exact ⟨rfl, behind⟩
      | _ => cases kinds
  | boolean value =>
      intro other rest otherRest otherBuilt follows otherFollows same
      have kinds := (Built.boolean value).lead_eq otherBuilt same
      cases otherBuilt with
      | boolean otherValue =>
          rw [chars_boolean, chars_boolean] at same
          cases value <;> cases otherValue <;> simp_all
      | _ => cases kinds
  | text value =>
      intro other rest otherRest otherBuilt follows otherFollows same
      have kinds := (Built.text value).lead_eq otherBuilt same
      cases otherBuilt with
      | text otherValue =>
          rw [chars_text, chars_text] at same
          obtain ⟨rfl, rfl⟩ := Text.eq_of_quoted_append same
          exact ⟨rfl, rfl⟩
      | _ => cases kinds
  | none =>
      intro other rest otherRest otherBuilt follows otherFollows same
      have kinds := Built.none.lead_eq otherBuilt same
      cases otherBuilt with
      | none =>
          rw [chars_none] at same
          exact ⟨rfl, List.append_cancel_left same⟩
      | nil =>
          rw [chars_none, chars_nil] at same
          simp at same
      | _ => cases kinds
  | nil =>
      intro other rest otherRest otherBuilt follows otherFollows same
      have kinds := Built.nil.lead_eq otherBuilt same
      cases otherBuilt with
      | nil =>
          rw [chars_nil] at same
          exact ⟨rfl, List.append_cancel_left same⟩
      | none =>
          rw [chars_none, chars_nil] at same
          simp at same
      | _ => cases kinds
  | list parts built readable =>
      intro other rest otherRest otherBuilt follows otherFollows same
      have kinds := (Built.list parts built).lead_eq otherBuilt same
      cases otherBuilt with
      | list others otherBuilt =>
          rw [chars_list, chars_list] at same
          obtain ⟨rfl, rfl⟩ := eq_of_enclosed built readable otherBuilt (.inl rfl) same
          exact ⟨rfl, rfl⟩
      | _ => cases kinds
  | tuple parts built readable =>
      intro other rest otherRest otherBuilt follows otherFollows same
      have kinds := (Built.tuple parts built).lead_eq otherBuilt same
      cases otherBuilt with
      | tuple others otherBuilt =>
          rw [chars_tuple, chars_tuple] at same
          obtain ⟨rfl, rfl⟩ := eq_of_enclosed built readable otherBuilt (.inr rfl) same
          exact ⟨rfl, rfl⟩
      | _ => cases kinds

/-- Built trees that are shown alike inside a container are the same. -/
theorem Built.eq_of_shown
    {left right : Tree}
    (leftBuilt : left.Built)
    (rightBuilt : right.Built)
    (same : left.shown = right.shown) :
    left = right := by
  have follows : Follows [] := fun _ none => by cases none
  refine (leftBuilt.readable right [] [] rightBuilt follows follows ?_).1
  rw [chars, chars, same]

end Tree

/-! ## Terms -/

namespace Store

variable {store other : Store} {left right term : Term} {leftTree rightTree tree : Tree}
  {depth otherDepth : Nat}

/-- A list or tuple by itself is shown as it is inside another term. -/
theorem display_of_expand
    (shows : store.expand false depth term = some tree)
    (sequence : term.kind = .list ∨ term.kind = .tuple) :
    store.display term = tree.shown := by
  rw [display, display?_of_expand shows, Option.getD_some]
  cases depth with
  | zero => cases shows
  | succ depth =>
      obtain ⟨parts, _, rfl⟩ := expand_succ_eq_some.mp shows
      cases term with
      | list | tuple => rfl
      | headTail raw | range raw => cases raw <;> simp [Term.kind] at sequence
      | _ => simp [Term.kind] at sequence

/-- Two lists or tuples that are built from integers, booleans, texts, none, nil, lists and
tuples have texts, and they are shown alike exactly if they are the same: of the same kinds and
values in the same order, throughout. -/
theorem display_unambiguous
    (leftShows : store.expand false depth left = some leftTree)
    (rightShows : other.expand false otherDepth right = some rightTree)
    (leftBuilt : leftTree.Built)
    (rightBuilt : rightTree.Built)
    (leftSequence : left.kind = .list ∨ left.kind = .tuple)
    (rightSequence : right.kind = .list ∨ right.kind = .tuple) :
    store.display? left = some (store.display left) ∧
      other.display? right = some (other.display right) ∧
      (store.display left = other.display right ↔ leftTree = rightTree) := by
  refine ⟨IsFinite.display? ⟨depth, leftTree, leftShows⟩,
    IsFinite.display? ⟨otherDepth, rightTree, rightShows⟩, ?_⟩
  rw [display_of_expand leftShows leftSequence, display_of_expand rightShows rightSequence]
  refine ⟨leftBuilt.eq_of_shown rightBuilt, ?_⟩
  rintro rfl
  rfl

/-- A store with a list of two texts, a list of one text that holds the comma and the quotes
between them, and a tuple around each list. -/
def punctuatedStore : Store :=
  { Store.initial with
    cells := #[#[.text "a", .text "b"], #[.text "a\",\"b"], #[.integer (-1), .list ⟨0⟩],
      #[.integer (-1), .list ⟨1⟩]] }

/-- The two tuples are not shown alike. -/
theorem display_unambiguous_of_punctuation :
    punctuatedStore.display (.tuple ⟨2⟩) ≠ punctuatedStore.display (.tuple ⟨3⟩) := by
  let first : Tree :=
    .node .tuple [.node (.integer (-1)) [],
      .node .list [.node (.text "a") [], .node (.text "b") []]]
  let second : Tree :=
    .node .tuple [.node (.integer (-1)) [], .node .list [.node (.text "a\",\"b") []]]
  have firstBuilt : first.Built := by
    refine .tuple _ (List.forall_mem_cons.mpr ⟨.integer _, ?_⟩)
    refine List.forall_mem_singleton.mpr (.list _ (List.forall_mem_cons.mpr ⟨.text _, ?_⟩))
    exact List.forall_mem_singleton.mpr (.text _)
  have secondBuilt : second.Built := by
    refine .tuple _ (List.forall_mem_cons.mpr ⟨.integer _, ?_⟩)
    exact List.forall_mem_singleton.mpr (.list _ (List.forall_mem_singleton.mpr (.text _)))
  have firstShows : punctuatedStore.expand false 3 (.tuple ⟨2⟩) = some first := rfl
  have secondShows : punctuatedStore.expand false 3 (.tuple ⟨3⟩) = some second := rfl
  obtain ⟨_, _, decides⟩ := display_unambiguous firstShows secondShows firstBuilt secondBuilt
    (.inr rfl) (.inr rfl)
  rw [ne_eq, decides]
  simp [first, second]

end Store
end PatternMachine
