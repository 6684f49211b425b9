import Mathlib.Data.List.Nodup
import PatternMachine.Proofs.Ledger.Contents
import PatternMachine.Proofs.ProgramRun

/-!
# The layout of structs and objects

A struct has different members and a slot for each of them; the slots hold what the
members start with, and that never changes. An object has as many slots as its
struct. So the places of data members lie inside the memory of every object, and
each member that is declared is found in the slot of its own.
-/

namespace PatternMachine

/-- A struct has different members and a slot for each of them, which holds the value
that the member starts with. -/
structure Template.IsLaidOut (template : Template) (initial : CellRef -> Array Term)
    (store : Store) : Prop where
  distinct : template.members.Nodup
  sized : (store.elements template.memory).size = template.members.length
  unchanged : store.elements template.memory = initial template.memory

/-- Every struct that can be met is laid out, and every object that can be met has a
struct, with as many slots. -/
structure Machine.LaidOut (initial : CellRef -> Array Term) (machine : Machine)
    (hand : List Term) : Prop where
  structs : ∀ template, machine.Meets hand (.struct template) ->
    template.IsLaidOut initial machine.store
  objects : ∀ owner memory, machine.Meets hand (.object owner memory) ->
    ∃ template, owner = some template ∧ machine.Meets hand (.struct template) ∧
      (machine.store.elements memory).size = (machine.store.elements template.memory).size

/-- The places of data members are in range, in structs and in objects, and every
declared member of an object is read from its own slot and written to it. -/
structure Machine.FindsMembers (machine : Machine) (hand : List Term) : Prop where
  structSlots : ∀ template, machine.Meets hand (.struct template) ->
    ∀ slot ∈ machine.store.dataSlots template,
      slot < (machine.store.elements template.memory).size
  objectSlots : ∀ template memory, machine.Meets hand (.object (some template) memory) ->
    ∀ slot ∈ machine.store.dataSlots template, slot < (machine.store.elements memory).size
  reads : ∀ template memory, machine.Meets hand (.object (some template) memory) ->
    ∀ (place : Nat) (name : String), template.members[place]? = some name ->
      ∃ value, (machine.store.elements memory)[place]? = some value ∧
        machine.store.member? (some template) memory name = some value
  writes : ∀ template memory, machine.Meets hand (.object (some template) memory) ->
    ∀ (place : Nat) (name : String), template.members[place]? = some name -> ∀ value,
      machine.store.writeMember? (some template) memory name value =
        some (machine.store.writeElement memory place value)

/-! ## Sound machines are laid out -/

/-- The values that the members of a struct start with, by the cell of the struct. -/
def Ledger.initial (ledger : Ledger) (cell : CellRef) : Array Term :=
  match ledger cell with
  | some (.slots _ initial) => initial
  | _ => #[]

theorem laidOut_isSafe {quoting : Bool} :
    Evaluator.IsSafe quoting fun future => Machine.LaidOut future.initial := by
  intro future ledger machine hand known sound data
  refine ⟨fun template met => ?_, fun owner memory met => ?_⟩
  · obtain ⟨initial, held⟩ : ledger.IsTemplate template := sound.meets_isCode data met
    obtain ⟨_, same, distinct, sized, _⟩ := sound.store.cells _ _ held
    refine ⟨distinct, by rw [same, sized], ?_⟩
    rw [same, Ledger.initial, known _ _ held]
  · have objectData : (Term.object owner memory).IsData quoting ledger :=
      sound.meets_isCode data met
    cases owner with
    | none => exact objectData.elim
    | some template =>
        refine ⟨template, rfl, met.onwards List.mem_cons_self, ?_⟩
        rw [sound.store.objectSize objectData, sound.store.templateSize objectData.2]

/-! ## What the layout is good for -/

/-- The place of a member among different members. -/
theorem Template.memberIndex?_of_getElem?
    {template : Template}
    (distinct : template.members.Nodup)
    {place : Nat}
    {name : String}
    (declared : template.members[place]? = some name) :
    template.memberIndex? name = some place := by
  obtain ⟨inside, named⟩ := List.getElem?_eq_some_iff.mp declared
  refine List.findIdx?_eq_some_iff_getElem.mpr ⟨inside, by simp [named], fun other before => ?_⟩
  intro same
  have equal : template.members[other] = template.members[place] := by
    rw [named]
    exact eq_of_beq same
  exact Nat.ne_of_lt before ((List.Nodup.getElem_inj_iff distinct).mp equal)

/-- The data members of a struct are read off the values that its members start with. -/
theorem Store.dataSlots_of_elements
    {store other : Store}
    {template : Template}
    (same : store.elements template.memory = other.elements template.memory) :
    store.dataSlots template = other.dataSlots template := by
  rw [dataSlots, dataSlots, dataPlaces, dataPlaces, same]

namespace Machine.LaidOut

variable {initial : CellRef -> Array Term} {machine : Machine} {hand : List Term}

/-- A declared member has a slot in every object of its struct. -/
theorem place_lt
    (laidOut : machine.LaidOut initial hand)
    {template : Template}
    {memory : CellRef}
    (met : machine.Meets hand (.object (some template) memory))
    {place : Nat}
    {name : String}
    (declared : template.members[place]? = some name) :
    template.memberIndex? name = some place ∧ place < (machine.store.elements memory).size := by
  obtain ⟨owner, same, metStruct, sized⟩ := laidOut.objects _ _ met
  obtain rfl := Option.some.inj same
  have struct := laidOut.structs _ metStruct
  refine ⟨Template.memberIndex?_of_getElem? struct.distinct declared, ?_⟩
  rw [sized, struct.sized]
  exact (List.getElem?_eq_some_iff.mp declared).1

theorem findsMembers (laidOut : machine.LaidOut initial hand) : machine.FindsMembers hand where
  structSlots := fun _ _ _ => Store.lt_size_of_mem_dataSlots
  objectSlots := by
    intro template memory met slot inside
    obtain ⟨owner, same, _, sized⟩ := laidOut.objects _ _ met
    obtain rfl := Option.some.inj same
    rw [sized]
    exact Store.lt_size_of_mem_dataSlots inside
  reads := by
    intro template memory met place name declared
    obtain ⟨found, inside⟩ := laidOut.place_lt met declared
    refine ⟨_, Array.getElem?_eq_getElem inside, ?_⟩
    simp [Store.member?, found, inside]
  writes := by
    intro template memory met place name declared value
    obtain ⟨found, inside⟩ := laidOut.place_lt met declared
    simp [Store.writeMember?, found, inside]

/-- The data members of a struct stay the same. -/
theorem dataSlots_eq
    (laidOut : machine.LaidOut initial hand)
    {later : Machine}
    {laterHand : List Term}
    (laterLaidOut : later.LaidOut initial laterHand)
    {template : Template}
    (met : machine.Meets hand (.struct template))
    (laterMet : later.Meets laterHand (.struct template)) :
    later.store.dataSlots template = machine.store.dataSlots template := by
  refine Store.dataSlots_of_elements ?_
  rw [(laterLaidOut.structs _ laterMet).unchanged, (laidOut.structs _ met).unchanged]

end Machine.LaidOut

namespace Program

/-- At every moment of every run of a loaded program, structs and objects are laid
out, with the same values for the members to start with from the beginning to the
end: a run that is supervised for it is the run itself, and so it ends. Where structs
and objects are laid out, members are found, and the data members of a struct are the
same at all moments. -/
theorem layout_holds
    {name : String}
    {node : Document.Node}
    {program : Program}
    {store : Store}
    (loads : read name node Store.initial = .ok program store)
    (settings : Settings)
    (tracer : Tracer)
    (withBuiltins : Bool)
    (depth : Nat) :
    let machine := Machine.prepared store settings tracer withBuiltins
    ∃ initial,
      (Evaluator.supervised (Machine.LaidOut initial) depth).runProgram program machine =
          (Evaluator.within depth).runProgram program machine ∧
        EndsWith (Machine.LaidOut initial)
          ((Evaluator.within depth).runProgram program machine) ∧
        ∀ (moment : Machine) hand, moment.LaidOut initial hand ->
          moment.FindsMembers hand ∧
            ∀ (later : Machine) laterHand, later.LaidOut initial laterHand ->
              ∀ template, moment.Meets hand (.struct template) ->
                later.Meets laterHand (.struct template) ->
                  later.store.dataSlots template = moment.store.dataSlots template := by
  have loaded : program.Loaded true store :=
    loaded_of_read loads fun impossible => by cases impossible
  obtain ⟨final, _, same, ends⟩ :=
    loaded.run_supervised laidOut_isSafe settings tracer withBuiltins depth
  refine ⟨final.initial, same, ends, fun moment hand laidOut => ⟨laidOut.findsMembers, ?_⟩⟩
  exact fun later laterHand laterLaidOut template => laidOut.dataSlots_eq laterLaidOut

/-- A program that makes two objects of a struct with two members, and writes to a
member of the first one. -/
def pointsNode : Document.Node :=
  let key (text : String) := Document.Node.scalar 1 "!!str" text
  let number (text : String) := Document.Node.scalar 1 "!!int" text
  let list (items : List Document.Node) := Document.Node.sequence 1 "!!seq" items
  let entry (name : String) (node : Document.Node) :=
    Document.Node.mapping 1 "!!map" [(key name, node)]
  let identifier (name : String) := entry "id" (key name)
  let assign (expression pattern : Document.Node) :=
    Document.Node.mapping 1 "!!map" [(key "expr", expression), (key "let", pattern)]
  let point := entry "call" (list [key "Point", number "1", number "2"])
  entry "program" (list
    [entry "struct" (.mapping 1 "!!map"
        [(key "name", key "Point"),
          (key "members",
            list [entry "data" (identifier "x"), entry "data" (identifier "y")])]),
      assign point (identifier "p"),
      assign point (identifier "q"),
      assign (number "9") (entry "index" (list [identifier "p", identifier "x"])),
      entry "expr" (identifier "p")])

/-- The program that is read from `pointsNode`. -/
def points : Program where
  name := "main"
  statements :=
    [.define "Point" [.dataMember 1 (.identifier "x"), .dataMember 2 (.identifier "y")],
      .evaluate (.apply 3 (.identifier "Point") (.tuple ⟨1⟩)) (.identifier "p"),
      .evaluate (.apply 4 (.identifier "Point") (.tuple ⟨2⟩)) (.identifier "q"),
      .evaluate (.integer 9) (.index 5 (.identifier "p") (.identifier "x")),
      .evaluate (.identifier "p") .absent]

/-- The store that `pointsNode` is read into. -/
def pointsStore : Store :=
  { Store.initial with
    cells := #[#[.none, .none], #[.integer 1, .integer 2], #[.integer 1, .integer 2]]
    nextMark := 6 }

theorem pointsNode_read : read "main" pointsNode Store.initial = .ok points pointsStore := rfl

/-- The run of `points` finishes with an object of two slots, and all is laid out. -/
theorem layout_holds_of_points :
    let machine := Machine.prepared pointsStore {} {} false
    (match (Evaluator.within 9).runProgram points machine with
      | .ok (.finished (.object (some template) memory)) after =>
          template.members == ["x", "y"] && (after.store.elements memory).size == 2
      | _ => false) = true ∧
      ∃ initial,
        (Evaluator.supervised (Machine.LaidOut initial) 9).runProgram points machine =
            (Evaluator.within 9).runProgram points machine ∧
          EndsWith (Machine.LaidOut initial)
            ((Evaluator.within 9).runProgram points machine) ∧
          ∀ (moment : Machine) hand, moment.LaidOut initial hand ->
            moment.FindsMembers hand ∧
              ∀ (later : Machine) laterHand, later.LaidOut initial laterHand ->
                ∀ template, moment.Meets hand (.struct template) ->
                  later.Meets laterHand (.struct template) ->
                    later.store.dataSlots template = moment.store.dataSlots template :=
  ⟨by decide +kernel, layout_holds pointsNode_read {} {} false 9⟩

end Program
end PatternMachine
