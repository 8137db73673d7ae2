import DialogueScript.Proofs.Script.Inspection

/-!
# The exploration of a script

The unreachable states are those to which no path of transitions leads
(`Script.mem_unreachable_iff`). They are what an exploration from the start leaves over
(`Script.explore`). It goes by rounds: each takes a pending key away and, if this is a state that
has not been visited, makes its targets pending. A key may be pending several times, and need not be
a state.

An exploration makes at most one round more than the script has transitions, and however it goes, it
leaves over the same (`Script.unreachable_exact`): rounds may take the pending keys in any order,
and may pass over targets that have been visited (`Exploration.Round`).

Each round makes less of what is pending together with what the states to be visited can still make
pending (`Exploration.weight`). While an exploration goes on, a transition from a visited key to one
that is not leads to a pending key (`Exploration.Sound.frontier`); at the end nothing is pending, so
no transition leads to what is left over.
-/

namespace DialogueScript

namespace Script

variable {script : Script} {key : Text} {pending later unvisited : List Text}

/-- A path of transitions leads from the start to the key. -/
inductive Reachable (script : Script) : Text → Prop
  | start : Reachable script Name.start
  | step {key target : Text} (h : Reachable script key) (htarget : target ∈ script.targets key) :
    Reachable script target

/-- The number of transitions of a script. -/
def transitionCount (script : Script) : Nat :=
  (script.states.values.flatMap (·.transitions)).length

/-- A key that was not visited yet is visited, and its targets come first. -/
theorem explore_of_mem (h : key ∈ unvisited) : script.explore (key :: pending) unvisited
    = script.explore (script.targets key ++ pending) (unvisited.erase key) := by
  rw [explore, if_pos h]

/-- A key that was visited, or that no state has, is passed over. -/
theorem explore_of_notMem (h : key ∉ unvisited) :
    script.explore (key :: pending) unvisited = script.explore pending unvisited := by
  rw [explore, if_neg h]

/-! ## The frontier -/

/-- What is pending covers every transition from a visited key to one that is not visited. -/
def Frontier (script : Script) (pending unvisited : List Text) : Prop :=
  ∀ key ∉ unvisited, ∀ target ∈ script.targets key, target ∈ unvisited → target ∈ pending

/-- Visiting a key moves the frontier to its targets. -/
theorem Frontier.visit (h : Frontier script (key :: pending) unvisited)
    (hnodup : unvisited.Nodup) :
    Frontier script (script.targets key ++ pending) (unvisited.erase key) := by
  intro other hother target htarget hleft
  rw [hnodup.mem_erase_iff] at hother hleft
  by_cases heq : other = key
  · subst heq
    exact List.mem_append_left _ htarget
  · have hpending := h other (fun hmem => hother ⟨heq, hmem⟩) target htarget hleft.2
    exact List.mem_append_right _ ((List.mem_cons.mp hpending).resolve_left hleft.1)

/-- Visited keys need not be pending. -/
theorem Frontier.of_forall_mem (h : Frontier script pending unvisited)
    (hlater : ∀ key ∈ pending, key ∈ unvisited → key ∈ later) :
    Frontier script later unvisited :=
  fun key hkey target htarget hleft => hlater target (h key hkey target htarget hleft) hleft

/-- Passing over a key that is not to be visited leaves the frontier as it is. -/
theorem Frontier.skip (h : Frontier script (key :: pending) unvisited) (hkey : key ∉ unvisited) :
    Frontier script pending unvisited := by
  refine h.of_forall_mem fun other hmem hleft => (List.mem_cons.mp hmem).resolve_left ?_
  rintro rfl
  exact hkey hleft

end Script

/-- An exploration under way: the pending keys, and the states that have not been visited. -/
structure Exploration where
  pending : List Text
  unvisited : List Text

namespace Exploration

variable {script : Script} {before after last : Exploration} {key : Text} {count : Nat}

/-- The exploration of a script begins with its start. -/
def begin (script : Script) : Exploration := ⟨[Name.start], script.states.keys⟩

/-- What the exploration of a script ends with. -/
def done (script : Script) : Exploration := ⟨[], script.unreachable⟩

/-- One round of an exploration: some pending key is taken away. The targets of a state that has not
been visited become pending then, in any order, at least those that have not been visited either. -/
inductive Round (script : Script) : Exploration → Exploration → Prop
  | visit {key : Text} {pending rest pushed later unvisited : List Text}
    (htaken : pending.Perm (key :: rest)) (hkey : key ∈ unvisited)
    (hpushed : pushed.Sublist (script.targets key))
    (hall : ∀ target ∈ script.targets key, target ∈ unvisited.erase key → target ∈ pushed)
    (hlater : later.Perm (pushed ++ rest)) :
    Round script ⟨pending, unvisited⟩ ⟨later, unvisited.erase key⟩
  | pass {key : Text} {pending rest unvisited : List Text}
    (htaken : pending.Perm (key :: rest)) (hkey : key ∉ unvisited) :
    Round script ⟨pending, unvisited⟩ ⟨rest, unvisited⟩

/-- So many rounds, one after the other. -/
inductive Rounds (script : Script) : Nat → Exploration → Exploration → Prop
  | none (exploration : Exploration) : Rounds script 0 exploration exploration
  | next {count : Nat} {before after last : Exploration} (hround : Round script before after)
    (hrest : Rounds script count after last) : Rounds script (count + 1) before last

/-! ## Going on -/

/-- While anything is pending there is another round. -/
theorem exists_round (h : before.pending ≠ []) : ∃ after, Round script before after := by
  obtain ⟨pending, unvisited⟩ := before
  obtain ⟨key, rest, rfl⟩ := List.exists_cons_of_ne_nil h
  by_cases hkey : key ∈ unvisited
  · exact ⟨_, .visit (.refl _) hkey (.refl _) (fun _ htarget _ => htarget) (.refl _)⟩
  · exact ⟨_, .pass (.refl _) hkey⟩

/-- `Script.explore` goes on until nothing is pending. -/
theorem exists_rounds_explore (script : Script) (pending unvisited : List Text) :
    ∃ count, Rounds script count ⟨pending, unvisited⟩ ⟨[], script.explore pending unvisited⟩ := by
  induction pending, unvisited using Script.explore.induct script with
  | case1 unvisited =>
    rw [Script.explore]
    exact ⟨0, .none _⟩
  | case2 key pending unvisited hkey ih =>
    obtain ⟨count, hrounds⟩ := ih
    rw [Script.explore_of_mem hkey]
    exact ⟨count + 1,
      .next (.visit (.refl _) hkey (.refl _) (fun _ htarget _ => htarget) (.refl _)) hrounds⟩
  | case3 key pending unvisited hkey ih =>
    obtain ⟨count, hrounds⟩ := ih
    rw [Script.explore_of_notMem hkey]
    exact ⟨count + 1, .next (.pass (.refl _) hkey) hrounds⟩

/-- The compiler explores the script to the end. -/
theorem exists_rounds_done (script : Script) :
    ∃ count, Rounds script count (begin script) (done script) :=
  exists_rounds_explore script [Name.start] script.states.keys

/-! ## Coming to an end -/

/-- The number of pending keys, and of the transitions that can still make keys pending. -/
def weight (script : Script) (exploration : Exploration) : Nat :=
  exploration.pending.length + (exploration.unvisited.flatMap script.targets).length

/-- Each round loses weight: a visited key takes its transitions away, and a key passed over itself.
-/
theorem Round.weight_lt (h : Round script before after) :
    after.weight script < before.weight script := by
  cases h with
  | visit htaken hkey hpushed _ hlater =>
    -- the targets that become pending are no more than those that no longer can
    have hleft := ((List.perm_cons_erase hkey).flatMap_right script.targets).length_eq
    have hmore := hpushed.length_le
    have hbefore := htaken.length_eq
    have hafter := hlater.length_eq
    simp only [List.flatMap_cons, List.length_cons, List.length_append] at *
    unfold weight
    dsimp only
    omega
  | pass htaken =>
    have hbefore := htaken.length_eq
    rw [List.length_cons] at hbefore
    unfold weight
    dsimp only
    omega

/-- There are no more rounds than there is weight, since each of them loses some. -/
theorem Rounds.add_weight_le (h : Rounds script count before last) :
    count + last.weight script ≤ before.weight script := by
  induction h with
  | none => omega
  | next hround _ ih =>
    have hless := hround.weight_lt
    omega

/-- At first there is one pending key, and all transitions may still be pushed. -/
theorem weight_begin (script : Script) :
    (begin script).weight script = script.transitionCount + 1 := by
  have htargets : script.states.keys.flatMap script.targets
      = (script.states.values.flatMap (·.transitions)).map (·.target) := by
    rw [Table.keys, Table.values, List.flatMap_map, List.flatMap_map, List.map_flatMap,
      List.flatMap_def, List.flatMap_def]
    refine congrArg List.flatten (List.map_congr_left fun entry hentry => ?_)
    have hstate : script.get? entry.1 = some entry.2 := Table.mem_entries_iff.mp hentry
    simp [Script.targets, hstate]
  rw [weight, begin, htargets, List.length_map, Script.transitionCount, List.length_singleton,
    Nat.add_comm]

/-! ## What is left over -/

/-- What is pending or has been visited can be reached, and what can be reached has been visited or
lies behind something that is pending. -/
structure Sound (script : Script) (exploration : Exploration) : Prop where
  sublist : exploration.unvisited.Sublist script.states.keys
  pending : ∀ key ∈ exploration.pending, script.Reachable key
  visited : ∀ key ∈ script.states.keys, key ∉ exploration.unvisited → script.Reachable key
  start : Name.start ∈ exploration.unvisited → Name.start ∈ exploration.pending
  frontier : script.Frontier exploration.pending exploration.unvisited

/-- At first only the start is pending. -/
theorem sound_begin (script : Script) : Sound script (begin script) where
  sublist := .refl _
  pending key hkey := List.mem_singleton.mp hkey ▸ .start
  visited key hkey hnot := absurd hkey hnot
  start _ := List.mem_singleton_self _
  frontier key hkey target htarget := by
    -- at first nothing is visited but what is no state, and that has no transitions
    rw [Script.targets_of_notMem_keys hkey] at htarget
    cases htarget

/-- A round visits reachable keys only, and leaves no target of a visited key behind. -/
theorem Sound.round (h : Sound script before) (hround : Round script before after) :
    Sound script after := by
  have hnodup : before.unvisited.Nodup := script.states.nodup_keys.sublist h.sublist
  cases hround with
  | @visit key pending rest pushed later unvisited htaken hkey hpushed hall hlater =>
    have hreached : script.Reachable key := h.pending key (htaken.mem_iff.mpr (by simp))
    -- in which order keys are pending does not matter
    have hfrontier : script.Frontier (key :: rest) unvisited :=
      h.frontier.of_forall_mem fun _ hmem _ => htaken.mem_iff.mp hmem
    exact
      { sublist := List.erase_sublist.trans h.sublist
        pending := fun other hmem => by
          rcases List.mem_append.mp (hlater.mem_iff.mp hmem) with htarget | hrest
          · exact hreached.step (hpushed.subset htarget)
          · exact h.pending other (htaken.mem_iff.mpr (List.mem_cons_of_mem _ hrest))
        visited := fun other hstate hnot => by
          rw [hnodup.mem_erase_iff] at hnot
          by_cases heq : other = key
          · exact heq ▸ hreached
          · exact h.visited other hstate fun hleft => hnot ⟨heq, hleft⟩
        start := fun hleft => by
          obtain ⟨hne, hleft⟩ := hnodup.mem_erase_iff.mp hleft
          have hbefore := htaken.mem_iff.mp (h.start hleft)
          exact hlater.mem_iff.mpr
            (List.mem_append_right _ ((List.mem_cons.mp hbefore).resolve_left hne))
        frontier := by
          refine (hfrontier.visit hnodup).of_forall_mem fun other hmem hleft => ?_
          rcases List.mem_append.mp hmem with htarget | hrest
          · exact hlater.mem_iff.mpr (List.mem_append_left _ (hall other htarget hleft))
          · exact hlater.mem_iff.mpr (List.mem_append_right _ hrest) }
  | @pass key pending rest unvisited htaken hkey =>
    have hfrontier : script.Frontier (key :: rest) unvisited :=
      h.frontier.of_forall_mem fun _ hmem _ => htaken.mem_iff.mp hmem
    exact
      { sublist := h.sublist
        pending := fun other hmem =>
          h.pending other (htaken.mem_iff.mpr (List.mem_cons_of_mem _ hmem))
        visited := h.visited
        start := fun hleft => (List.mem_cons.mp (htaken.mem_iff.mp (h.start hleft))).resolve_left
          fun heq => hkey (heq ▸ hleft)
        frontier := hfrontier.skip hkey }

theorem Sound.rounds (h : Sound script before) (hrounds : Rounds script count before last) :
    Sound script last := by
  induction hrounds with
  | none => exact h
  | next hround _ ih => exact ih (h.round hround)

/-- At the end, what has not been visited is what no path leads to. -/
theorem Sound.mem_unvisited_iff (h : Sound script last) (hend : last.pending = []) :
    key ∈ last.unvisited ↔ script.contains key = true ∧ ¬ script.Reachable key := by
  have hvisited : script.Reachable key → key ∉ last.unvisited := by
    intro hkey
    induction hkey with
    | start => exact fun hleft => by simpa [hend] using h.start hleft
    | step _ htarget ih =>
      exact fun hleft => by simpa [hend] using h.frontier _ ih _ htarget hleft
  rw [← show key ∈ script.states.keys ↔ script.contains key = true from Table.mem_keys_iff]
  constructor
  · exact fun hleft => ⟨h.sublist.subset hleft, fun hkey => hvisited hkey hleft⟩
  · rintro ⟨hstate, hkey⟩
    exact Classical.not_not.mp fun hnot => hkey (h.visited key hstate hnot)

theorem sound_done (script : Script) : Sound script (done script) := by
  obtain ⟨count, hrounds⟩ := exists_rounds_done script
  exact (sound_begin script).rounds hrounds

/-- What is left unvisited stays in the order of the keys. -/
theorem Sound.ascending (h : Sound script last) : last.unvisited.Pairwise (· < ·) :=
  (List.pairwise_map.mpr script.states.ascending).sublist h.sublist

/-- An exploration in which nothing is pending has come to the one end there is. -/
theorem Sound.eq_done (h : Sound script last) (hend : last.pending = []) : last = done script := by
  have hdone := sound_done script
  have hnodup : ∀ {exploration}, Sound script exploration → exploration.unvisited.Nodup :=
    fun hsound => script.states.nodup_keys.sublist hsound.sublist
  have hperm : last.unvisited.Perm (done script).unvisited :=
    (List.perm_ext_iff_of_nodup (hnodup h) (hnodup hdone)).mpr fun key => by
      rw [h.mem_unvisited_iff hend, hdone.mem_unvisited_iff rfl]
  have hsame : last.unvisited = (done script).unvisited :=
    hperm.eq_of_pairwise (fun a b _ _ hab hba => absurd (List.lt_trans hab hba) (List.lt_irrefl a))
      h.ascending hdone.ascending
  obtain ⟨pending, unvisited⟩ := last
  dsimp only at hend hsame
  rw [hend, hsame]
  rfl

end Exploration

namespace Script

variable {script : Script} {key : Text}

/-- A state is unreachable exactly when no path of transitions from the start leads to it. -/
theorem mem_unreachable_iff : key ∈ script.unreachable ↔
    script.contains key = true ∧ ¬ Reachable script key :=
  (Exploration.sound_done script).mem_unvisited_iff rfl

/-- No path of transitions leads to an unreachable state. -/
theorem Reachable.notMem_unreachable (h : Reachable script key) : key ∉ script.unreachable :=
  fun hmem => (mem_unreachable_iff.mp hmem).2 h

/-- **The unreachable states are found exactly, and after finitely many rounds.** However the
exploration of a script goes, it makes at most one round more than there are transitions; it goes on
or has come to an end with the unreachable states left over, and to that end it does come. They are
in ascending order, and they are the states that no path of transitions leads to. -/
theorem unreachable_exact (script : Script) :
    (∀ count exploration,
      Exploration.Rounds script count (.begin script) exploration →
        count ≤ script.transitionCount + 1 ∧
        ((∃ later, Exploration.Round script exploration later) ∨ exploration = .done script)) ∧
    (∃ count, Exploration.Rounds script count (.begin script) (.done script)) ∧
    script.unreachable.Pairwise (· < ·) ∧
    ∀ key, key ∈ script.unreachable ↔ script.contains key = true ∧ ¬ Reachable script key := by
  refine ⟨fun count exploration hrounds => ⟨?_, ?_⟩, Exploration.exists_rounds_done script,
    (Exploration.sound_done script).ascending, fun key => mem_unreachable_iff⟩
  · have hweight := hrounds.add_weight_le
    rw [Exploration.weight_begin] at hweight
    omega
  · by_cases hend : exploration.pending = []
    · exact .inr (((Exploration.sound_begin script).rounds hrounds).eq_done hend)
    · exact .inl (Exploration.exists_round hend)

/-- Two states that lead to each other, the one twice to the other, which leads to what is no state
as well: when both have been visited, one of them is pending still. -/
theorem unreachable_exact_loops :
    let state (targets : List String) : ScriptState :=
      { ScriptState.ofPrompt "Where to?".toList with
        transitions := targets.map fun target => ⟨.wildcard, target.toList⟩ }
    let script : Script := ((seeded.define Name.start (state ["start", "a", "a"])).define ['a']
      (state ["start", "nowhere"])).define ['b'] (state ["b", "start"])
    let exploration : Exploration := ⟨["nowhere".toList, ['a']], [['b'], Name.finish]⟩
    Exploration.Rounds script 2 (.begin script) exploration ∧
    2 ≤ script.transitionCount + 1 ∧ (∃ later, Exploration.Round script exploration later) ∧
    ['b'] ∈ script.unreachable ∧ ['a'] ∉ script.unreachable := by
  intro state script exploration
  have hfirst : Exploration.Round script (.begin script)
      ⟨[['a'], ['a']], [['a'], ['b'], Name.finish]⟩ :=
    @Exploration.Round.visit script Name.start [Name.start] [] [['a'], ['a']] _
      script.states.keys (.refl _) (by decide) (by decide) (by decide) (.refl _)
  have hsecond : Exploration.Round script ⟨[['a'], ['a']], [['a'], ['b'], Name.finish]⟩
      exploration :=
    @Exploration.Round.visit script ['a'] [['a'], ['a']] [['a']] ["nowhere".toList] _
      [['a'], ['b'], Name.finish] (.refl _) (by decide) (by decide) (by decide) (.refl _)
  have hrounds : Exploration.Rounds script 2 (.begin script) exploration :=
    .next hfirst (.next hsecond (.none _))
  obtain ⟨hruns, -, -, hmem⟩ := unreachable_exact script
  obtain ⟨hcount, hlater⟩ := hruns 2 exploration hrounds
  have hreached : script.Reachable ['a'] := .step .start (by decide)
  -- from these three keys, transitions lead to no other
  have hclosed : ∀ key, script.Reachable key → key ∈ [Name.start, ['a'], "nowhere".toList] := by
    have htargets : ∀ key ∈ [Name.start, ['a'], "nowhere".toList], ∀ target ∈ script.targets key,
        target ∈ [Name.start, ['a'], "nowhere".toList] := by decide
    intro key hkey
    induction hkey with
    | start => decide
    | step _ htarget ih => exact htargets _ ih _ htarget
  refine ⟨hrounds, hcount, hlater.resolve_right fun hdone => ?_,
    (hmem ['b']).mpr ⟨by decide, fun hkey => absurd (hclosed _ hkey) (by decide)⟩,
    fun hleft => ((hmem ['a']).mp hleft).2 hreached⟩
  exact absurd (congrArg Exploration.pending hdone) (List.cons_ne_nil _ _)

end Script

end DialogueScript
