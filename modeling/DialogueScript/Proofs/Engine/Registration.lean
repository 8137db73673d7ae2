import Mathlib.Data.List.Basic
import Mathlib.Data.List.Induction
import DialogueScript.Proofs.Engine.Diagnostics

/-!
# What is registered can be called

A registry is made by registering calls one after the other, names perhaps more than once. It lists
each name where it first came up (`ListsFirst`), and answers a call by what was last registered for
the name (`HostRegistry.Serves`). The list of names and the table of answers never part
(`CallTable.Agrees`), and a conversation asks the list before it calls; so no conversation meets a
name without an answer (`registered_and_served`).
-/

namespace DialogueScript

/-! ## Names in the order in which they first came up -/

/-- The names of a row, each at the place where it first stands. -/
structure ListsFirst (listed row : List Text) : Prop where
  mem_iff : ∀ name, name ∈ listed ↔ name ∈ row
  ordered : listed.Pairwise fun a b => row.idxOf a < row.idxOf b

namespace ListsFirst

variable {listed row : List Text} {name : Text}

theorem nil : ListsFirst [] [] := ⟨fun _ => .rfl, .nil⟩

/-- No name is listed twice, since it has one first place. -/
theorem nodup (h : ListsFirst listed row) : listed.Nodup :=
  h.ordered.imp fun hlt heq => by simp [heq] at hlt

/-- Another name at the end moves no first place. -/
theorem idxOf_concat (h : ListsFirst listed row) (name : Text) {other : Text}
    (hother : other ∈ listed) : (row ++ [name]).idxOf other = row.idxOf other :=
  List.idxOf_append_of_mem ((h.mem_iff other).mp hother)

/-- The names that are listed stay in their order. -/
theorem ordered_concat (h : ListsFirst listed row) (name : Text) :
    listed.Pairwise fun a b => (row ++ [name]).idxOf a < (row ++ [name]).idxOf b :=
  h.ordered.imp_of_mem fun ha hb hlt => by rwa [h.idxOf_concat name ha, h.idxOf_concat name hb]

/-- A name that came up before is not listed again. -/
theorem concat_of_mem (h : ListsFirst listed row) (hname : name ∈ listed) :
    ListsFirst listed (row ++ [name]) where
  mem_iff other := by
    rw [h.mem_iff other, List.mem_append, List.mem_singleton]
    exact ⟨.inl, fun hor => hor.elim id fun heq => heq ▸ (h.mem_iff name).mp hname⟩
  ordered := h.ordered_concat name

/-- A new name is listed behind all others. -/
theorem concat_of_notMem (h : ListsFirst listed row) (hname : name ∉ listed) :
    ListsFirst (listed ++ [name]) (row ++ [name]) where
  mem_iff other := by simp [h.mem_iff other]
  ordered := by
    refine List.pairwise_append.mpr
      ⟨h.ordered_concat name, List.pairwise_singleton _ _, fun other hother last hlast => ?_⟩
    obtain rfl := List.mem_singleton.mp hlast
    have hrow : last ∉ row := fun hmem => hname ((h.mem_iff last).mpr hmem)
    have hlt := List.idxOf_lt_length_of_mem ((h.mem_iff other).mp hother)
    rw [h.idxOf_concat last hother, List.idxOf_append_of_notMem hrow]
    omega

end ListsFirst

/-! ## Registering -/

namespace CallTable

variable {calls : List (Text × HostAnswer)} {name : Text}

/-- Registering one call more goes on with the table so far. -/
theorem ofCalls_concat (calls : List (Text × HostAnswer)) (call : Text × HostAnswer) :
    ofCalls (calls ++ [call]) = (ofCalls calls).register call.1 call.2 := by
  simp [ofCalls, registerAll]

/-- A new answer replaces the one that its name had. -/
theorem get?_ofCalls_concat (calls : List (Text × HostAnswer)) (call : Text × HostAnswer)
    (name : Text) : (ofCalls (calls ++ [call])).answers.get? name
      = if call.1 = name then some call.2 else (ofCalls calls).answers.get? name := by
  rw [ofCalls_concat]
  exact Table.get?_insert _ _ _ _

/-- What is registered for other names does not matter. -/
theorem get?_ofCalls_last {before after : List (Text × HostAnswer)} {answer : HostAnswer}
    (h : name ∉ after.map (·.1)) :
    (ofCalls (before ++ (name, answer) :: after)).answers.get? name = some answer := by
  induction after using List.reverseRecOn with
  | nil => rw [get?_ofCalls_concat, if_pos rfl]
  | append_singleton after call ih =>
    -- the last call is for another name
    rw [List.map_append, List.mem_append, not_or] at h
    have hne : call.1 ≠ name := fun heq => h.2 (by simp [heq])
    rw [← List.cons_append, ← List.append_assoc, get?_ofCalls_concat, if_neg hne]
    exact ih h.1

/-- The names are listed where they were first registered. -/
theorem listsFirst_ofCalls (calls : List (Text × HostAnswer)) :
    ListsFirst (ofCalls calls).names (calls.map (·.1)) := by
  induction calls using List.reverseRecOn with
  | nil => exact .nil
  | append_singleton calls call ih =>
    rw [ofCalls_concat, List.map_append]
    -- a name goes on the list by what the answers know of it
    have hknown : call.1 ∈ (ofCalls calls).names ↔ (ofCalls calls).answers.contains call.1 = true :=
      agrees_ofCalls calls call.1
    unfold register
    dsimp only
    split
    next h => exact ih.concat_of_mem (hknown.mpr h)
    next h => exact ih.concat_of_notMem fun hmem => h (hknown.mp hmem)

/-- A name that was never registered has no answer. -/
theorem get?_ofCalls_eq_none (h : name ∉ calls.map (·.1)) :
    (ofCalls calls).answers.get? name = none := by
  cases hanswer : (ofCalls calls).answers.get? name with
  | none => rfl
  | some answer => exact absurd (List.mem_map_of_mem (mem_of_get?_ofCalls hanswer)) h

end CallTable

/-- The names that are declared are listed where they first stand. -/
theorem HostRegistry.listsFirst_declare (names : List Text) :
    ListsFirst (HostRegistry.declare names).names names := by
  induction names using List.reverseRecOn with
  | nil => exact .nil
  | append_singleton names name ih =>
    have hstep : (HostRegistry.declare (names ++ [name])).names
        = if (HostRegistry.declare names).names.contains name
          then (HostRegistry.declare names).names
          else (HostRegistry.declare names).names ++ [name] := by
      simp [declare, HostRegistry.names]
    rw [hstep]
    split
    next h => exact ih.concat_of_mem (List.contains_iff_mem.mp h)
    next h => exact ih.concat_of_notMem fun hmem => h (List.contains_iff_mem.mpr hmem)

/-! ## Calling -/

namespace HostRegistry

/-- The code of a call for which nothing is registered. -/
def missingCode : Text := "ENGINE_HOST_CALL_MISSING".toList

/-- The failure of a call for which nothing is registered. -/
def unregistered (name : Text) : HostFailure :=
  failure "ENGINE_HOST_CALL_MISSING" s!"Host call \"{String.ofList name}\" is not registered."

/-- The answer is a failure with that code. -/
def Misses (answer : Except HostFailure Text) : Prop :=
  ∃ failure, answer = .error failure ∧ failure.code = missingCode

/-- A registry lists and answers what was registered, one call after the other. -/
structure Serves (registry : HostRegistry) (calls : List (Text × HostAnswer)) : Prop where
  nodup : registry.names.Nodup
  listsFirst : ListsFirst registry.names (calls.map (·.1))
  contains_iff : ∀ name, registry.contains name = true ↔ name ∈ calls.map (·.1)
  call_last : ∀ before name answer after, calls = before ++ (name, answer) :: after →
    name ∉ after.map (·.1) → ∀ earlier, registry.call name earlier = answer earlier
  call_unregistered : ∀ name, name ∉ calls.map (·.1) →
    ∀ earlier, registry.call name earlier = .error (unregistered name)
  /-- Unless an answer takes the code for itself, it says that the name was never registered. -/
  misses_iff : (∀ call ∈ calls, ∀ earlier, ¬ Misses (call.2 earlier)) →
    ∀ name earlier, Misses (registry.call name earlier) ↔ name ∉ calls.map (·.1)

variable {calls : List (Text × HostAnswer)} {name : Text}

/-- A registered name is answered by the function of its table entry. -/
theorem call_answering_of_get? {answer : HostAnswer}
    (h : (CallTable.ofCalls calls).answers.get? name = some answer) (earlier : Nat) :
    (answering calls).call name earlier = answer earlier := by
  simp only [answering_eq_listing, call, h]

/-- A name that was never registered fails with its own code. -/
theorem call_answering_of_notMem (h : name ∉ calls.map (·.1)) (earlier : Nat) :
    (answering calls).call name earlier = .error (unregistered name) := by
  simp only [answering_eq_listing, call, CallTable.get?_ofCalls_eq_none h, unregistered]

/-- The names of a registry come in the order in which they first came up. -/
theorem listsFirst_answering (calls : List (Text × HostAnswer)) :
    ListsFirst (answering calls).names (calls.map (·.1)) := by
  rw [answering_eq_listing]
  exact CallTable.listsFirst_ofCalls calls

/-- A registry contains the names that were registered. -/
theorem contains_answering_iff :
    (answering calls).contains name = true ↔ name ∈ calls.map (·.1) :=
  List.contains_iff_mem.trans ((listsFirst_answering calls).mem_iff name)

/-- A name that was registered is answered by what was registered for it. -/
theorem exists_call_answering (h : name ∈ calls.map (·.1)) :
    ∃ call ∈ calls, ∀ earlier, (answering calls).call name earlier = call.2 earlier := by
  have hanswered : ((CallTable.ofCalls calls).answers.get? name).isSome = true :=
    (CallTable.agrees_ofCalls calls name).mp
      (((CallTable.listsFirst_ofCalls calls).mem_iff name).mpr h)
  obtain ⟨answer, hanswer⟩ := Option.isSome_iff_exists.mp hanswered
  exact ⟨_, CallTable.mem_of_get?_ofCalls hanswer, call_answering_of_get? hanswer⟩

/-- A call is missing exactly if its name was not registered, as long as no function says so itself.
-/
theorem misses_answering_iff (h : ∀ call ∈ calls, ∀ earlier, ¬ Misses (call.2 earlier))
    (name : Text) (earlier : Nat) :
    Misses ((answering calls).call name earlier) ↔ name ∉ calls.map (·.1) := by
  constructor
  · intro hmisses hname
    obtain ⟨call, hcall, hanswer⟩ := exists_call_answering hname
    rw [hanswer] at hmisses
    exact h call hcall earlier hmisses
  · intro hname
    exact ⟨_, call_answering_of_notMem hname earlier, rfl⟩

theorem serves_answering (calls : List (Text × HostAnswer)) : (answering calls).Serves calls where
  nodup := (listsFirst_answering calls).nodup
  listsFirst := listsFirst_answering calls
  contains_iff _ := contains_answering_iff
  call_last _ _ _ _ hcalls hafter :=
    call_answering_of_get? (hcalls ▸ CallTable.get?_ofCalls_last hafter)
  call_unregistered _ hname := call_answering_of_notMem hname
  misses_iff := misses_answering_iff

end HostRegistry

/-- The code is only recorded if a known name has an answer that takes it for itself. -/
theorem Recordable.misses_of_code {settings : Settings} {problem : Problem}
    (h : Recordable settings problem) (hcode : problem.code = HostRegistry.missingCode) :
    ∃ name earlier, settings.hosts.contains name = true ∧
      HostRegistry.Misses (settings.hosts.call name earlier) := by
  rcases h.code_cases with hordinary | ⟨-, -, -, hinvalid⟩ | ⟨-, -, -, -, hunknown⟩ |
    ⟨-, name, failure, earlier, rfl, hcall⟩
  · have hother : HostRegistry.missingCode ∉ ordinaryCodes := by decide
    exact absurd (hcode ▸ hordinary) hother
  · rw [hinvalid] at hcode
    exact absurd hcode (by decide)
  · rw [hunknown] at hcode
    exact absurd hcode (by decide)
  · exact ⟨name, earlier, h.known_of_hostCall, failure, hcall, hcode⟩

/-- **Registries list and answer what was registered**: each name once, where it first came up; a
call by what was last registered for its name; and a name for which nothing was registered by the
failure that says so. Names that are only declared are listed in the same way. So a conversation
never records that a call is missing, unless an answer itself fails with that code. -/
theorem registered_and_served (calls : List (Text × HostAnswer)) (names : List Text) :
    (HostRegistry.answering calls).Serves calls ∧
    (HostRegistry.declare names).names.Nodup ∧
    ListsFirst (HostRegistry.declare names).names names ∧
    ((∀ call ∈ calls, ∀ earlier, ¬ HostRegistry.Misses (call.2 earlier)) →
      ∀ settings : Settings, settings.hosts = .answering calls → ∀ operations : List Operation,
        ∀ problem ∈ (History.after settings operations).engine.diagnostics,
          problem.code ≠ HostRegistry.missingCode) := by
  have hserves := HostRegistry.serves_answering calls
  have hdeclared := HostRegistry.listsFirst_declare names
  refine ⟨hserves, hdeclared.nodup, hdeclared,
    fun hanswers settings hhosts operations problem hmem hcode => ?_⟩
  have hrecorded := History.recordable_after settings operations problem hmem
  obtain ⟨name, earlier, hknown, hmisses⟩ := hrecorded.misses_of_code hcode
  rw [hhosts] at hknown hmisses
  exact (hserves.misses_iff hanswers name earlier).mp hmisses
    ((hserves.contains_iff name).mp hknown)

/-- A name that is registered twice, one whose answer fails, and a script that asks for a third. -/
theorem registered_and_served_roll :
    let calls : List (Text × HostAnswer) :=
      [("roll".toList, fun _ => .ok ['6']),
        ("fail".toList, fun _ => .error ⟨.host, "HOST_BROKEN".toList, "broken".toList⟩),
        ("roll".toList, fun earlier => .ok (Text.ofNat earlier))]
    let registry := HostRegistry.answering calls
    let script : Script := Script.seeded.define Name.start
      { Script.defaultStart with
        assignments := [⟨Name.call, "roll".toList⟩, ⟨Name.call, "fail".toList⟩,
          ⟨Name.call, "other".toList⟩] }
    let settings : Settings := { Settings.ofScript script with hosts := registry }
    let engine := (History.after settings [.start, .respond "go".toList]).engine
    (∀ call ∈ calls, ∀ earlier, ¬ HostRegistry.Misses (call.2 earlier)) ∧
    registry.names = ["roll".toList, "fail".toList] ∧
    registry.call "roll".toList 4 = .ok ['4'] ∧
    HostRegistry.Misses (registry.call "other".toList 0) ∧
    (HostRegistry.declare ["roll".toList, "fail".toList, "roll".toList]).names.Nodup ∧
    engine.diagnostics.map (·.code) = ["HOST_BROKEN".toList, "ENGINE_CALL_UNKNOWN".toList] ∧
    ∀ problem ∈ engine.diagnostics, problem.code ≠ HostRegistry.missingCode := by
  intro calls registry script settings engine
  have hanswers : ∀ call ∈ calls, ∀ earlier, ¬ HostRegistry.Misses (call.2 earlier) := by
    rintro call hcall earlier ⟨failure, hfailure, hcode⟩
    simp only [calls, List.mem_cons, List.not_mem_nil, or_false] at hcall
    rcases hcall with rfl | rfl | rfl
    · cases hfailure
    · cases hfailure
      exact absurd hcode (by decide)
    · cases hfailure
  obtain ⟨hserves, hnodup, -, hnever⟩ :=
    registered_and_served calls ["roll".toList, "fail".toList, "roll".toList]
  have hlast : registry.call "roll".toList 4 = .ok (Text.ofNat 4) :=
    hserves.call_last (calls.take 2) "roll".toList _ [] rfl (by simp) 4
  refine ⟨hanswers, by decide +kernel, hlast.trans (by decide), ?_, hnodup, by decide +kernel,
    hnever hanswers settings rfl _⟩
  exact (hserves.misses_iff hanswers _ 0).mpr (by decide)

end DialogueScript
