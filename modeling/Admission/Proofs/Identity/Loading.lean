import Admission.Identity

/-!
# Profiles are loaded once

A program builds identities, copies them and loads profiles through any of them, while the
directory may answer differently each time. An identity and its copies ask the directory once
between them: the first load decides, and every later one returns what it came to, a fault or a
timeout included. What loads through other identities come to makes no difference to them, even
when these are bound to the same directory.
-/

namespace Admission

/-! ## Cells -/

namespace ProfileCells

variable {cells : ProfileCells} {cell other : Nat} {result : Except ProfileFault Profile}

theorem held?_allocate : cells.allocate.2.held? other = cells.held? other := by
  rw [held?, held?, allocate, List.getElem?_append]
  split
  · rfl
  next beyond =>
    rw [List.getElem?_eq_none (Nat.le_of_not_lt beyond)]
    cases other - cells.cells.length <;> rfl

theorem held?_set (within : cell < cells.cells.length) :
    held? ⟨cells.cells.set cell (some result)⟩ other =
      if cell = other then some result else cells.held? other := by
  rw [held?, held?, List.getElem?_set, if_pos within]
  split <;> rfl

end ProfileCells

namespace Identity

/-- How an identity is built: from what it is apart from its profile, bound to a directory. -/
structure Build where
  draft : Identity
  directory : Directory
  timeout : Duration

/-- An identity that is held, with the number of the build that it descends from. -/
structure Handle where
  origin : Nat
  identity : Identity

/-- What is done to identities. -/
inductive Action where
  | build (build : Build)
  /-- Copy the identity at a place among those that are held. -/
  | copy (place : Nat)
  /-- Load the profile of the identity at a place, when the directory gives an answer. -/
  | load (place : Nat) (answer : ProfileAnswer)

/-- The build that an action is. -/
def Action.build? : Action → Option Build
  | .build new => some new
  | .copy _ => none
  | .load _ _ => none

/-- The builds among actions, in order. -/
def builds (actions : List Action) : List Build :=
  actions.filterMap Action.build?

/-- A load, with what the directory would answer and what comes of it. -/
structure Loading where
  origin : Nat
  answer : ProfileAnswer
  result : Except ProfileFault Profile
  /-- Whether the directory was asked. -/
  asked : Bool

/-- What comes of a load. -/
def Loading.outcome (loading : Loading) : Except ProfileFault Profile × Bool :=
  (loading.result, loading.asked)

/-- The identities of a program and the cells of their profiles. -/
structure Holding where
  handles : List Handle
  built : Nat
  cells : ProfileCells

namespace Holding

/-- No identities yet. -/
def empty : Holding := ⟨[], 0, .none⟩

/-- One action, with the load that it is. An action at a place where nothing is held does
nothing. -/
def act (holding : Holding) : Action → Option Loading × Holding
  | .build build =>
      let (identity, cells) :=
        build.draft.bindDirectory holding.cells (some build.directory) build.timeout
      (none, ⟨holding.handles ++ [⟨holding.built, identity⟩], holding.built + 1, cells⟩)
  | .copy place =>
      (none, { holding with handles := holding.handles ++ holding.handles[place]?.toList })
  | .load place answer =>
      match holding.handles[place]? with
      | none => (none, holding)
      | some handle =>
          let load := handle.identity.loadWith holding.cells answer
          (some ⟨handle.origin, answer, load.result, load.asked⟩,
            { holding with cells := load.cells })

/-- The loads among actions taken in order. -/
def loads (holding : Holding) : List Action → List Loading
  | [] => []
  | action :: actions => (holding.act action).1.toList ++ (holding.act action).2.loads actions

/-- What is held once actions have been taken in order. -/
def after (holding : Holding) (actions : List Action) : Holding :=
  actions.foldl (fun holding action => (holding.act action).2) holding

end Holding

/-- The loads through the identity of a build and its copies. -/
def through (origin : Nat) (history : List Loading) : List Loading :=
  history.filter fun loading => loading.origin == origin

/-- The loads through the identity of a build and its copies in a program that starts with
none. -/
def loadsOf (origin : Nat) (actions : List Action) : List Loading :=
  through origin (Holding.empty.loads actions)

/-- Loads of which the first asks the directory and accepts its answer, if it comes in time, and
the others return the same without asking. -/
inductive LoadedOnce (uid : String) (timeout : Duration) : List Loading → Prop where
  | never : LoadedOnce uid timeout []
  | once {first : Loading} {later : List Loading} (asked : first.asked = true)
      (accepted : first.result = ProfileCells.accept uid timeout first.answer)
      (kept : ∀ next ∈ later, next.asked = false ∧ next.result = first.result) :
      LoadedOnce uid timeout (first :: later)

/-- The loads of the identity of a build while no other is around. -/
def loadsAlone (build : Build) (answers : List ProfileAnswer) : List Loading :=
  loadsOf 0 (.build build :: answers.map (.load 0))

variable {uid : String} {timeout : Duration} {history past : List Loading} {next : Loading}
  {holding : Holding} {origin : Nat} {known : List Build}

/-! ## Loads of one identity -/

theorem loadWith_of_held {identity : Identity} {cells : ProfileCells} {loader : Loader}
    {result : Except ProfileFault Profile} (bound : identity.loader = some loader)
    (held : cells.held? loader.cell = some result) (answer : ProfileAnswer) :
    identity.loadWith cells answer = ⟨result, cells, false⟩ := by
  rw [loadWith, bound]
  simp only [ProfileCells.load, held]

theorem loadWith_of_unheld {identity : Identity} {cells : ProfileCells} {loader : Loader}
    (bound : identity.loader = some loader) (unheld : cells.held? loader.cell = none)
    (answer : ProfileAnswer) :
    identity.loadWith cells answer =
      ⟨ProfileCells.accept identity.uid loader.timeout answer,
        ⟨cells.cells.set loader.cell
          (some (ProfileCells.accept identity.uid loader.timeout answer))⟩, true⟩ := by
  rw [loadWith, bound]
  simp only [ProfileCells.load, unheld]

theorem through_append_self (same : next.origin = origin) :
    through origin (history ++ [next]) = through origin history ++ [next] := by
  simp [through, same]

theorem through_append_other (other : next.origin ≠ origin) :
    through origin (history ++ [next]) = through origin history := by
  simp [through, other]

/-- One more load that returns what the first came to, without asking. -/
theorem LoadedOnce.append (once : LoadedOnce uid timeout past) {first : Loading}
    (begun : past.head? = some first) (unasked : next.asked = false)
    (same : next.result = first.result) : LoadedOnce uid timeout (past ++ [next]) := by
  cases once with
  | never => cases begun
  | once asked accepted kept =>
      cases begun
      refine .once asked accepted fun loading among => ?_
      rcases List.mem_append.mp among with among | among
      · exact kept loading among
      · rw [List.mem_singleton.mp among]
        exact ⟨unasked, same⟩

/-- The directory is asked at most once. -/
theorem LoadedOnce.asked_le (once : LoadedOnce uid timeout past) :
    past.countP Loading.asked ≤ 1 := by
  cases once with
  | never => exact Nat.zero_le _
  | @once first later asked accepted kept =>
      have unasked : later.countP Loading.asked = 0 :=
        List.countP_eq_zero.mpr fun loading among => by simp [(kept loading among).1]
      exact Nat.le_of_eq (by rw [List.countP_cons_of_pos asked, unasked])

/-- Every load returns what the first came to. -/
theorem LoadedOnce.result_eq (once : LoadedOnce uid timeout past) {first loading : Loading}
    (begun : past.head? = some first) (among : loading ∈ past) :
    loading.result = ProfileCells.accept uid timeout first.answer := by
  cases once with
  | never => cases begun
  | once asked accepted kept =>
      cases begun
      rcases List.mem_cons.mp among with rfl | later
      · exact accepted
      · exact (kept loading later).2.trans accepted

/-- What comes of loads that are offered answers, of which the first decides. -/
def outcomesOf (uid : String) (timeout : Duration) :
    List ProfileAnswer → List (Except ProfileFault Profile × Bool)
  | [] => []
  | first :: later =>
      (ProfileCells.accept uid timeout first, true) ::
        later.map fun _ => (ProfileCells.accept uid timeout first, false)

theorem LoadedOnce.outcomes_eq (once : LoadedOnce uid timeout past) :
    past.map Loading.outcome = outcomesOf uid timeout (past.map Loading.answer) := by
  cases once with
  | never => rfl
  | once asked accepted kept =>
      rw [List.map_cons, List.map_cons, outcomesOf, Loading.outcome, asked, accepted,
        List.map_map]
      refine congrArg _ (List.map_congr_left fun loading among => ?_)
      obtain ⟨unasked, result⟩ := kept loading among
      rw [Loading.outcome, unasked, result, accepted]
      rfl

/-! ## One action -/

/-- What is held is in step with the builds and the loads so far: identities load through the
cell of their build, and each cell keeps what its first load came to. -/
structure Mirrors (known : List Build) (history : List Loading) (holding : Holding) : Prop where
  built : holding.built = known.length
  cells : holding.cells.cells.length = known.length
  bound : ∀ handle ∈ holding.handles, ∃ build, known[handle.origin]? = some build ∧
    handle.identity.uid = build.draft.uid ∧
    handle.identity.loader = some ⟨build.directory, build.timeout, handle.origin⟩
  once : ∀ origin build, known[origin]? = some build →
    LoadedOnce build.draft.uid build.timeout (through origin history)
  kept : ∀ origin, holding.cells.held? origin = (through origin history).head?.map Loading.result

theorem mirrors_empty : Mirrors [] [] .empty where
  built := rfl
  cells := rfl
  bound _ among := absurd among List.not_mem_nil
  once _ _ found := by cases found
  kept _ := rfl

/-- No load is through an identity that is not built yet. -/
theorem Mirrors.through_eq_nil (mirrors : Mirrors known history holding)
    (beyond : known.length ≤ origin) : through origin history = [] := by
  have unheld : holding.cells.held? origin = none := by
    rw [ProfileCells.held?, List.getElem?_eq_none (mirrors.cells ▸ beyond), Option.join_none]
  have nothing := mirrors.kept origin
  rw [unheld, eq_comm, Option.map_eq_none_iff, List.head?_eq_none_iff] at nothing
  exact nothing

/-- A new identity has a cell that holds nothing. -/
theorem Mirrors.built_next (mirrors : Mirrors known history holding) (build : Build) :
    Mirrors (known ++ [build]) history (holding.act (.build build)).2 where
  built := by simp [Holding.act, mirrors.built]
  cells := by simp [Holding.act, bindDirectory, ProfileCells.allocate, mirrors.cells]
  bound handle among := by
    rcases List.mem_append.mp among with among | among
    · obtain ⟨earlier, found, rest⟩ := mirrors.bound handle among
      have within := (List.getElem?_eq_some_iff.mp found).1
      exact ⟨earlier, by rw [List.getElem?_append_left within, found], rest⟩
    · rw [List.mem_singleton.mp among]
      exact ⟨build, by simp [mirrors.built], rfl,
        by simp [mirrors.built, mirrors.cells]⟩
  once origin later found := by
    rcases Nat.lt_or_ge origin known.length with within | beyond
    · rw [List.getElem?_append_left within] at found
      exact mirrors.once origin later found
    · rw [mirrors.through_eq_nil beyond]
      exact .never
  kept origin := by
    rw [← mirrors.kept origin]
    exact ProfileCells.held?_allocate

/-- A copy loads through the cell of the identity that it is copied from. -/
theorem Mirrors.copied (mirrors : Mirrors known history holding) (place : Nat) :
    Mirrors known history (holding.act (.copy place)).2 where
  built := mirrors.built
  cells := mirrors.cells
  bound handle among := by
    rcases List.mem_append.mp among with among | among
    · exact mirrors.bound handle among
    · exact mirrors.bound handle (List.mem_of_getElem? (Option.mem_toList.mp among))
  once := mirrors.once
  kept := mirrors.kept

/-- A load that finds the cell filled returns what it holds. -/
theorem Mirrors.loaded_again (mirrors : Mirrors known history holding) {first : Loading}
    (begun : (through next.origin history).head? = some first) (unasked : next.asked = false)
    (same : next.result = first.result) : Mirrors known (history ++ [next]) holding where
  built := mirrors.built
  cells := mirrors.cells
  bound := mirrors.bound
  once origin build found := by
    by_cases own : next.origin = origin
    · rw [through_append_self own]
      exact (mirrors.once origin build found).append (own ▸ begun) unasked same
    · rw [through_append_other own]
      exact mirrors.once origin build found
  kept origin := by
    rw [mirrors.kept origin]
    by_cases own : next.origin = origin
    · subst own
      rw [through_append_self rfl, List.head?_append, begun, Option.some_or]
    · rw [through_append_other own]

/-- A load that finds the cell empty asks the directory and fills the cell. -/
theorem Mirrors.loaded_first (mirrors : Mirrors known history holding) {build : Build}
    (found : known[next.origin]? = some build) (unbegun : through next.origin history = [])
    (asked : next.asked = true)
    (accepted : next.result =
      ProfileCells.accept build.draft.uid build.timeout next.answer) :
    Mirrors known (history ++ [next])
      { holding with cells := ⟨holding.cells.cells.set next.origin (some next.result)⟩ } where
  built := mirrors.built
  cells := by rw [List.length_set, mirrors.cells]
  bound := mirrors.bound
  once origin other among := by
    by_cases own : next.origin = origin
    · subst own
      cases found.symm.trans among
      rw [through_append_self rfl, unbegun, List.nil_append]
      exact .once asked accepted fun _ later => absurd later List.not_mem_nil
    · rw [through_append_other own]
      exact mirrors.once origin other among
  kept origin := by
    have within : next.origin < holding.cells.cells.length :=
      mirrors.cells ▸ (List.getElem?_eq_some_iff.mp found).1
    rw [ProfileCells.held?_set within]
    split
    next own => rw [through_append_self own, ← own, unbegun]; rfl
    next other => rw [through_append_other other, mirrors.kept origin]

/-- A load at any place, also where nothing is held. -/
theorem Mirrors.loaded (mirrors : Mirrors known history holding) (place : Nat)
    (answer : ProfileAnswer) :
    Mirrors known (history ++ (holding.act (.load place answer)).1.toList)
      (holding.act (.load place answer)).2 := by
  cases found : holding.handles[place]? with
  | none =>
      simp only [Holding.act, found, Option.toList_none, List.append_nil]
      exact mirrors
  | some handle =>
      obtain ⟨build, among, sameUid, bound⟩ :=
        mirrors.bound handle (List.mem_of_getElem? found)
      simp only [Holding.act, found, Option.toList_some]
      -- The cell holds something exactly if this identity has been loaded through before.
      cases held : holding.cells.held? handle.origin with
      | some result =>
          obtain ⟨first, begun, rfl⟩ :=
            Option.map_eq_some_iff.mp ((mirrors.kept handle.origin).symm.trans held)
          simp only [loadWith_of_held bound held]
          exact mirrors.loaded_again begun rfl rfl
      | none =>
          have unbegun : through handle.origin history = [] :=
            List.head?_eq_none_iff.mp
              (Option.map_eq_none_iff.mp ((mirrors.kept handle.origin).symm.trans held))
          simp only [loadWith_of_unheld bound held, sameUid]
          exact mirrors.loaded_first among unbegun rfl rfl

/-! ## Runs -/

/-- An action adds the build that it is and the load that it is. -/
theorem Mirrors.act (mirrors : Mirrors known history holding) (action : Action) :
    Mirrors (known ++ action.build?.toList) (history ++ (holding.act action).1.toList)
      (holding.act action).2 := by
  cases action with
  | build new => simpa [Action.build?, Holding.act] using mirrors.built_next new
  | copy place => simpa [Action.build?, Holding.act] using mirrors.copied place
  | load place answer => simpa [Action.build?] using mirrors.loaded place answer

/-- A run keeps what is held in step with its builds and its loads. -/
theorem Mirrors.after (mirrors : Mirrors known history holding) (actions : List Action) :
    Mirrors (known ++ builds actions) (history ++ holding.loads actions)
      (holding.after actions) := by
  induction actions generalizing known history holding with
  | nil => simpa [builds, Holding.loads, Holding.after] using mirrors
  | cons action actions ih =>
      have further := ih (mirrors.act action)
      have split : builds (action :: actions) = action.build?.toList ++ builds actions := by
        cases new : action.build? <;> simp [builds, new]
      rw [List.append_assoc, List.append_assoc] at further
      rwa [split]

/-- The loads through one identity that is held at the front. -/
theorem map_answer_loads_front {handle : Handle} (front : holding.handles[0]? = some handle)
    (answers : List ProfileAnswer) :
    (through handle.origin (holding.loads (answers.map (.load 0)))).map Loading.answer =
      answers := by
  induction answers generalizing holding with
  | nil => rfl
  | cons answer answers ih =>
      simp only [List.map_cons, Holding.loads, Holding.act, front, Option.toList_some]
      rw [through, List.singleton_append, List.filter_cons_of_pos (by simp), List.map_cons]
      exact congrArg _ (ih front)

theorem map_answer_loadsAlone (build : Build) (answers : List ProfileAnswer) :
    (loadsAlone build answers).map Loading.answer = answers := by
  have front : (Holding.empty.act (.build build)).2.handles[0]? =
      some ⟨0, (build.draft.bindDirectory .none (some build.directory) build.timeout).1⟩ := rfl
  exact map_answer_loads_front front answers

/-- Whatever is done to identities, the loads through one of them and its copies ask the
directory once between them, and each returns what the first came to: the answer that it was
given, if it came in time, and otherwise the fault of the timeout. They come to what they would
come to if the identity and its copies were alone, whatever is loaded through others. -/
theorem profiles_loaded_once (actions : List Action) {origin : Nat} {build : Build}
    (found : (builds actions)[origin]? = some build) :
    LoadedOnce build.draft.uid build.timeout (loadsOf origin actions) ∧
      (loadsOf origin actions).countP Loading.asked ≤ 1 ∧
      (∀ first, (loadsOf origin actions).head? = some first →
        ∀ loading ∈ loadsOf origin actions,
          loading.result =
            ProfileCells.accept build.draft.uid build.timeout first.answer) ∧
      (loadsOf origin actions).map Loading.outcome =
        (loadsAlone build ((loadsOf origin actions).map Loading.answer)).map
          Loading.outcome := by
  have once {actions origin} {build : Build} (found : (builds actions)[origin]? = some build) :
      LoadedOnce build.draft.uid build.timeout (loadsOf origin actions) :=
    (mirrors_empty.after actions).once origin build found
  refine ⟨once found, (once found).asked_le,
    fun first begun loading among => (once found).result_eq begun among, ?_⟩
  have alone (answers : List ProfileAnswer) :
      LoadedOnce build.draft.uid build.timeout (loadsAlone build answers) := once rfl
  rw [(once found).outcomes_eq, (alone _).outcomes_eq, map_answer_loadsAlone]

namespace Viewer

def profile : Profile := ⟨"viewer", none, none, false, []⟩

/-- An identity that waits five seconds for its directory. -/
def identity : Build where
  draft := ⟨"viewer", none, [], none, [], "token", none⟩
  directory := ⟨[("viewer", .ok profile)], .seconds 0⟩
  timeout := .seconds 5

/-- The profile, when it is too late. -/
def late : ProfileAnswer := ⟨.ok profile, .seconds 6⟩

/-- The profile at once. -/
def prompt : ProfileAnswer := ⟨.ok profile, .seconds 0⟩

/-- Two identities are built in the same way and the first is copied. The profile comes too late
for the copy, and at once for both others. -/
def calls : List Action :=
  [.build identity, .build identity, .copy 0, .load 2 late, .load 1 prompt, .load 0 prompt]

end Viewer

open Viewer in
/-- The identity whose copy has waited in vain returns the fault of the timeout without asking,
and the identity that was built apart from it has the profile. -/
theorem timeout_kept_by_copies_only :
    (builds calls)[0]? = some identity ∧ (builds calls)[1]? = some identity ∧
      (loadsOf 0 calls).map Loading.outcome =
        [(.error (.unavailable "profile fetch for viewer timed out"), true),
          (.error (.unavailable "profile fetch for viewer timed out"), false)] ∧
      (loadsOf 1 calls).map Loading.outcome = [(.ok profile, true)] := by
  have first : (builds calls)[0]? = some identity := rfl
  have second : (builds calls)[1]? = some identity := rfl
  obtain ⟨_, _, _, firstAlone⟩ := profiles_loaded_once calls first
  obtain ⟨_, _, _, secondAlone⟩ := profiles_loaded_once calls second
  exact ⟨first, second, firstAlone.trans rfl, secondAlone.trans rfl⟩

end Identity
end Admission
