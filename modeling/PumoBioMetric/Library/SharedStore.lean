import PumoBioMetric.Library.TransitionRun

/-!
# Two operations on a shared store

An operation loads the whole store, acts once on the world and writes the whole store
back.  Two of them take their steps in any order.  As long as neither writes after the
other has written since its own first load, the outcome is that of a serial order.
-/

set_option autoImplicit false

namespace SharedStore

open TransitionRun

universe u v w

/-- What is left of an operation: loads, then one act at most, then writes. -/
inductive Stage (Store : Type u) (World : Type v) where
  | load (rest : Store → Stage Store World)
  | act (change : World → World) (writes : World → List Store)
  | save (writes : List Store)

abbrev Operation (Store : Type u) (World : Type v) := Store → Stage Store World

section

variable {Store : Type u} {World : Type v}

/-! ## An operation alone -/

def Stage.writes : Stage Store World → Store → World → List Store
  | load rest, store, world => (rest store).writes store world
  | act _ writes, _, world => writes world
  | save writes, _, _ => writes

def Stage.acted : Stage Store World → Store → World → World
  | load rest, store, world => (rest store).acted store world
  | act change _, _, world => change world
  | save _, _, world => world

def Stage.run (stage : Stage Store World) (state : Store × World) : Store × World :=
  ((stage.writes state.1 state.2).getLastD state.1, stage.acted state.1 state.2)

def Operation.run (operation : Operation Store World) (state : Store × World) : Store × World :=
  (operation state.1).run state

/-! ## Two operations step by step -/

/-- `overtaken`: the other operation has written since this one's first load. -/
inductive Party (Store : Type u) (World : Type v) where
  | waiting (operation : Operation Store World)
  | running (stage : Stage Store World) (overtaken : Bool)

structure Moved (Store : Type u) (World : Type v) where
  party : Party Store World
  store : Store
  world : World
  wrote : Bool

namespace Party

def step (store : Store) (world : World) : Party Store World → Option (Moved Store World)
  | waiting operation => some ⟨running (operation store) false, store, world, false⟩
  | running (.load rest) overtaken => some ⟨running (rest store) overtaken, store, world, false⟩
  | running (.act change writes) overtaken =>
      some ⟨running (.save (writes world)) overtaken, store, change world, false⟩
  | running (.save (written :: rest)) overtaken =>
      some ⟨running (.save rest) overtaken, written, world, true⟩
  | running (.save []) _ => none

def beside (wrote : Bool) : Party Store World → Party Store World
  | waiting operation => waiting operation
  | running stage overtaken => running stage (overtaken || wrote)

def overtaken : Party Store World → Bool
  | waiting _ => false
  | running _ overtaken => overtaken

def finished : Party Store World → Bool
  | running (.save []) _ => true
  | _ => false

def undecided : Party Store World → Bool
  | running (.save _) _ => false
  | _ => true

def upToDate : Party Store World → Bool
  | running (.save (_ :: _)) overtaken => !overtaken
  | _ => true

@[simp] theorem beside_false (party : Party Store World) : party.beside false = party := by
  cases party <;> simp [beside]

end Party

inductive Side where
  | left
  | right
deriving DecidableEq, Repr

structure Race (Store : Type u) (World : Type v) where
  store : Store
  world : World
  left : Party Store World
  right : Party Store World

namespace Race

def step (race : Race Store World) : Side → Option (Race Store World)
  | .left =>
      (race.left.step race.store race.world).map fun moved =>
        ⟨moved.store, moved.world, moved.party, race.right.beside moved.wrote⟩
  | .right =>
      (race.right.step race.store race.world).map fun moved =>
        ⟨moved.store, moved.world, race.left.beside moved.wrote, moved.party⟩

def Step (before : Race Store World) (side : Side) (after : Race Store World) : Prop :=
  before.step side = some after

def start (state : Store × World) (left right : Operation Store World) : Race Store World :=
  ⟨state.1, state.2, .waiting left, .waiting right⟩

def Finished (race : Race Store World) : Prop :=
  race.left.finished = true ∧ race.right.finished = true

/-- The step at hand is no write of a party that was overtaken. -/
def UpToDate (race : Race Store World) : Side → Prop
  | .left => race.left.upToDate = true
  | .right => race.right.upToDate = true

def nextUpToDate (race : Race Store World) (side : Side) : Option (Race Store World) :=
  match side with
  | .left => if race.left.upToDate then race.step .left else none
  | .right => if race.right.upToDate then race.step .right else none

theorem run_of_upToDate {race final : Race Store World} {sides : List Side}
    (executed : sides.foldlM nextUpToDate race = some final) :
    Run (Guarded UpToDate Step) race sides final := by
  refine (Run.of_foldlM executed).mono fun before side after taken => ?_
  cases side with
  | left =>
      cases fresh : before.left.upToDate with
      | true => exact ⟨fresh, by simpa [nextUpToDate, Step, fresh] using taken⟩
      | false => simp [nextUpToDate, fresh] at taken
  | right =>
      cases fresh : before.right.upToDate with
      | true => exact ⟨fresh, by simpa [nextUpToDate, Step, fresh] using taken⟩
      | false => simp [nextUpToDate, fresh] at taken

end Race

/-! ## Where an operation stands -/

inductive Follows (near : Store → Prop) (operation : Operation Store World) :
    Stage Store World → Prop where
  | first {store : Store} : near store → Follows near operation (operation store)
  | again {rest : Store → Stage Store World} {store : Store} :
      Follows near operation (.load rest) → near store → Follows near operation (rest store)

def Party.Reads (near : Store → Prop) (operation : Operation Store World) :
    Party Store World → Prop
  | .waiting other => other = operation
  | .running stage _ => Follows near operation stage

theorem Follows.run {operation : Operation Store World} {stage : Stage Store World}
    {store : Store} (follows : Follows (fun loaded => loaded = store) operation stage)
    (world : World) : stage.run (store, world) = operation.run (store, world) := by
  induction follows with
  | first same => rw [same]; rfl
  | again _ same ih => rw [same]; exact ih

theorem Follows.writes {operation : Operation Store World} {stage : Stage Store World}
    {state : Store × World} (follows : Follows (fun loaded => loaded = state.1) operation stage) :
    (operation state.1).writes state.1 state.2 = stage.writes state.1 state.2 := by
  induction follows with
  | first same => rw [same]
  | again _ same ih => rw [ih, same]; rfl

theorem Follows.mono {near near' : Store → Prop} {operation : Operation Store World}
    {stage : Stage Store World} (follows : Follows near operation stage)
    (wider : ∀ store, near store → near' store) : Follows near' operation stage := by
  induction follows with
  | first loaded => exact .first (wider _ loaded)
  | again _ loaded ih => exact .again ih (wider _ loaded)

theorem Party.Reads.mono {near near' : Store → Prop} {operation : Operation Store World}
    {party : Party Store World} (reads : party.Reads near operation)
    (wider : ∀ store, near store → near' store) : party.Reads near' operation := by
  cases party with
  | waiting other => exact reads
  | running stage overtaken => exact Follows.mono reads wider

section

variable {View : Type w} (view : Store → View)

/-- Two stages that go on alike where their loads look the same. -/
inductive Alike : Stage Store World → Stage Store World → Prop where
  | load {rest rest' : Store → Stage Store World} :
      (∀ store store', view store = view store' → Alike (rest store) (rest' store')) →
        Alike (.load rest) (.load rest')
  | act {change : World → World} {writes writes' : World → List Store} :
      (∀ world, writes world = [] → writes' world = []) →
        Alike (.act change writes) (.act change writes')
  | save {writes writes' : List Store} :
      (writes = [] → writes' = []) → Alike (.save writes) (.save writes')

/-- Nothing but the view decides how the operation goes on. -/
def Operation.Local (operation : Operation Store World) : Prop :=
  ∀ store store', view store = view store' → Alike view (operation store) (operation store')

end

section

variable {View : Type w} {view : Store → View} {operation : Operation Store World}

theorem Follows.alike (isLocal : operation.Local view) {stage : Stage Store World} {seen : View}
    (follows : Follows (fun loaded => view loaded = seen) operation stage) {store : Store}
    (same : view store = seen) :
    ∃ stage', Follows (fun loaded => loaded = store) operation stage' ∧
      Alike view stage stage' := by
  induction follows with
  | first near => exact ⟨_, .first rfl, isLocal _ _ (near.trans same.symm)⟩
  | again _ near ih =>
      obtain ⟨stage', reached, alike⟩ := ih
      cases alike with
      | load rests => exact ⟨_, .again reached rfl, rests _ _ (near.trans same.symm)⟩

theorem Follows.silent (isLocal : operation.Local view) {stage : Stage Store World} {seen : View}
    (follows : Follows (fun loaded => view loaded = seen) operation stage) {loaded store : Store}
    {world : World} (settled : ∀ rest, stage ≠ .load rest)
    (nothing : stage.writes loaded world = []) (same : view store = seen) :
    operation.run (store, world) = (store, stage.acted loaded world) := by
  obtain ⟨stage', reached, alike⟩ := follows.alike isLocal same
  rw [← reached.run]
  cases alike with
  | load => exact absurd rfl (settled _)
  | act quiet => simp [Stage.run, Stage.writes, Stage.acted, quiet world nothing]
  | save quiet => simp [Stage.run, Stage.writes, Stage.acted, quiet nothing]

end

/-! ## How far a race has come -/

/-- Both operations have loaded the initial store at most. -/
structure Open (first second : Operation Store World) (state : Store × World)
    (race : Store × World) (own other : Party Store World) : Prop where
  unchanged : race = state
  ownReads : own.Reads (fun loaded => loaded = state.1) first
  otherReads : other.Reads (fun loaded => loaded = state.1) second
  ownUndecided : own.undecided = true
  otherUndecided : other.undecided = true
  ownFresh : own.overtaken = false
  otherFresh : other.overtaken = false

/-- What `first` writes is settled, as if it had run alone. -/
inductive Ahead {View : Type w} (view : Store → View) (first second : Operation Store World)
    (state : Store × World) : Store × World → Party Store World → Party Store World → Prop where
  | undecided {store : Store} {rest : List Store} {overtaken : Bool} {other : Party Store World} :
      rest.getLastD store = (first.run state).1 →
      (∀ written ∈ store :: rest, view written = view state.1) →
      other.undecided = true →
      other.Reads (fun loaded => view loaded = view state.1) second →
      (other.overtaken = false → other.Reads (fun loaded => loaded = store) second) →
        Ahead view first second state (store, (first.run state).2)
          (.running (.save rest) overtaken) other
  | silent {store : Store} {world : World} {rest : List Store} {overtaken overtaken' : Bool} :
      second.run (first.run state) = (rest.getLastD store, world) →
        Ahead view first second state (store, world)
          (.running (.save rest) overtaken) (.running (.save []) overtaken')
  | last {store : Store} {world : World} {rest : List Store} {overtaken overtaken' : Bool} :
      second.run (first.run state) = (rest.getLastD store, world) →
        Ahead view first second state (store, world)
          (.running (.save []) overtaken) (.running (.save rest) overtaken')
  | clash {race : Store × World} {written written' : Store} {rest rest' : List Store}
      {overtaken overtaken' : Bool} :
        Ahead view first second state race
          (.running (.save (written :: rest)) overtaken)
          (.running (.save (written' :: rest')) overtaken')

def Party.Doomed (party : Party Store World) : Prop :=
  ∃ written rest, party = .running (.save (written :: rest)) true

theorem Party.Doomed.beside {party : Party Store World} (doomed : party.Doomed) (wrote : Bool) :
    (party.beside wrote).Doomed := by
  obtain ⟨written, rest, rfl⟩ := doomed
  exact ⟨written, rest, rfl⟩

theorem Party.Doomed.upToDate {party : Party Store World} (doomed : party.Doomed) :
    party.upToDate = false := by
  obtain ⟨written, rest, rfl⟩ := doomed
  rfl

theorem Party.Doomed.finished {party : Party Store World} (doomed : party.Doomed) :
    party.finished = false := by
  obtain ⟨written, rest, rfl⟩ := doomed
  rfl

/-! ## One step -/

section

variable {View : Type w} {view : Store → View} {first second : Operation Store World}
  {state race : Store × World} {own other : Party Store World} {moved : Moved Store World}

theorem Ahead.settle (isLocal : second.Local view) {store : Store} {rest : List Store}
    {overtaken overtaken' : Bool} {stage : Stage Store World}
    (settled : ∀ rest, stage ≠ .load rest)
    (leaves : rest.getLastD store = (first.run state).1)
    (near : ∀ written ∈ store :: rest, view written = view state.1)
    (reads : Follows (fun loaded => view loaded = view state.1) second stage)
    (fresh : overtaken' = false → Follows (fun loaded => loaded = store) second stage) :
    Ahead view first second state (store, stage.acted store (first.run state).2)
        (.running (.save rest) overtaken)
        (.running (.save (stage.writes store (first.run state).2)) overtaken') ∨
      (Party.running (.save (stage.writes store (first.run state).2)) overtaken' :
        Party Store World).Doomed := by
  cases writes : stage.writes store (first.run state).2 with
  | nil =>
      have same : view (first.run state).1 = view state.1 := by
        rw [← leaves]
        exact near _ List.getLastD_mem_cons
      have quiet := reads.silent isLocal settled writes same
      refine Or.inl (.silent ?_)
      rw [leaves]
      exact quiet
  | cons written others =>
      cases overtaken' with
      | true => exact Or.inr ⟨written, others, rfl⟩
      | false =>
          cases rest with
          | cons pending more => exact Or.inl .clash
          | nil =>
              have alone := (fresh rfl).run (first.run state).2
              refine Or.inl (.last ?_)
              have here : first.run state = (store, (first.run state).2) :=
                Prod.ext leaves.symm rfl
              rw [here, ← alone, ← writes]
              rfl

theorem Ahead.read (isLocal : second.Local view) {store : Store} {rest : List Store}
    {overtaken overtaken' : Bool} {stage : Stage Store World}
    (leaves : rest.getLastD store = (first.run state).1)
    (near : ∀ written ∈ store :: rest, view written = view state.1)
    (reads : Follows (fun loaded => view loaded = view state.1) second stage)
    (fresh : overtaken' = false → Follows (fun loaded => loaded = store) second stage) :
    Ahead view first second state (store, (first.run state).2)
        (.running (.save rest) overtaken) (.running stage overtaken') ∨
      (Party.running stage overtaken').Doomed := by
  cases stage with
  | load more => exact Or.inl (.undecided leaves near rfl reads fresh)
  | act change writes => exact Or.inl (.undecided leaves near rfl reads fresh)
  | save writes => exact Ahead.settle isLocal (by simp) leaves near reads fresh

theorem Ahead.step_first (ahead : Ahead view first second state race own other)
    (step : own.step race.1 race.2 = some moved) :
    Ahead view first second state (moved.store, moved.world) moved.party
        (other.beside moved.wrote) ∨ (other.beside moved.wrote).Doomed := by
  cases ahead with
  | @undecided store rest overtaken other leaves near undecided reads fresh =>
      cases rest with
      | nil => cases step
      | cons written rest =>
          cases Option.some.inj step
          rw [List.getLastD_cons] at leaves
          have nearRest : ∀ later ∈ written :: rest, view later = view state.1 :=
            fun later member => near later (List.mem_cons_of_mem _ member)
          refine Or.inl ?_
          cases other with
          | waiting operation => exact .undecided leaves nearRest rfl reads fun _ => reads
          | running stage overtaken' =>
              refine .undecided leaves nearRest ?_ reads ?_
              · cases stage with
                | load more => rfl
                | act change writes => rfl
                | save writes => cases undecided
              · simp [Party.overtaken, Party.beside]
  | @silent store world rest overtaken overtaken' outcome =>
      cases rest with
      | nil => cases step
      | cons written rest =>
          cases Option.some.inj step
          rw [List.getLastD_cons] at outcome
          exact Or.inl (.silent outcome)
  | last outcome => cases step
  | @clash race written written' rest rest' overtaken overtaken' =>
      cases Option.some.inj step
      exact Or.inr ⟨written', rest', by simp [Party.beside]⟩

theorem Ahead.step_second (isLocal : second.Local view)
    (ahead : Ahead view first second state race own other)
    (step : other.step race.1 race.2 = some moved) :
    Ahead view first second state (moved.store, moved.world) (own.beside moved.wrote)
        moved.party ∨ moved.party.Doomed ∨ (own.beside moved.wrote).Doomed := by
  cases ahead with
  | @undecided store rest overtaken other leaves near undecided reads fresh =>
      have here := near store List.mem_cons_self
      cases other with
      | waiting operation =>
          cases Option.some.inj step
          cases reads
          rw [Party.beside_false]
          exact (Ahead.read isLocal leaves near (.first here) fun _ => .first rfl).imp_right
            Or.inl
      | running stage overtaken' =>
          cases stage with
          | load more =>
              cases Option.some.inj step
              rw [Party.beside_false]
              exact (Ahead.read isLocal leaves near (.again reads here)
                fun kept => .again (fresh kept) rfl).imp_right Or.inl
          | act change writes =>
              cases Option.some.inj step
              rw [Party.beside_false]
              exact (Ahead.settle isLocal (by simp) leaves near reads fresh).imp_right Or.inl
          | save writes => cases undecided
  | silent outcome => cases step
  | @last store world rest overtaken overtaken' outcome =>
      cases rest with
      | nil => cases step
      | cons written rest =>
          cases Option.some.inj step
          rw [List.getLastD_cons] at outcome
          exact Or.inl (.last outcome)
  | @clash race written written' rest rest' overtaken overtaken' =>
      cases Option.some.inj step
      exact Or.inr (Or.inr ⟨written, rest, by simp [Party.beside]⟩)

theorem Open.settle
    (keeps : ∀ written ∈ (first state.1).writes state.1 state.2, view written = view state.1)
    {stage : Stage Store World}
    (follows : Follows (fun loaded => loaded = state.1) first stage)
    (reads : other.Reads (fun loaded => loaded = state.1) second)
    (undecided : other.undecided = true) :
    Ahead view first second state (state.1, stage.acted state.1 state.2)
      (.running (.save (stage.writes state.1 state.2)) false) other := by
  have alone : stage.run state = first.run state := follows.run state.2
  have acted : stage.acted state.1 state.2 = (first.run state).2 := by rw [← alone]; rfl
  rw [acted]
  refine .undecided ?_ ?_ undecided (reads.mono ?_) fun _ => reads
  · rw [← alone]
    rfl
  · intro written member
    rcases List.mem_cons.mp member with rfl | later
    · rfl
    · exact keeps written (follows.writes ▸ later)
  · rintro _ rfl
    rfl

theorem Open.read
    (keeps : ∀ written ∈ (first state.1).writes state.1 state.2, view written = view state.1)
    {stage : Stage Store World} (follows : Follows (fun loaded => loaded = state.1) first stage)
    (reads : other.Reads (fun loaded => loaded = state.1) second)
    (undecided : other.undecided = true) (fresh : other.overtaken = false) :
    Open first second state state (.running stage false) other ∨
      Ahead view first second state state (.running stage false) other := by
  cases stage with
  | load more => exact Or.inl ⟨rfl, follows, reads, rfl, undecided, rfl, fresh⟩
  | act change writes => exact Or.inl ⟨rfl, follows, reads, rfl, undecided, rfl, fresh⟩
  | save writes => exact Or.inr (Open.settle keeps follows reads undecided)

theorem Open.step
    (keeps : ∀ written ∈ (first state.1).writes state.1 state.2, view written = view state.1)
    (opened : Open first second state race own other)
    (step : own.step race.1 race.2 = some moved) :
    moved.wrote = false ∧
      (Open first second state (moved.store, moved.world) moved.party other ∨
        Ahead view first second state (moved.store, moved.world) moved.party other) := by
  obtain ⟨rfl, ownReads, otherReads, ownUndecided, otherUndecided, ownFresh, otherFresh⟩ := opened
  cases own with
  | waiting operation =>
      cases Option.some.inj step
      cases ownReads
      exact ⟨rfl, Open.read keeps (.first rfl) otherReads otherUndecided otherFresh⟩
  | running stage overtaken =>
      cases ownFresh
      cases stage with
      | load more =>
          cases Option.some.inj step
          exact ⟨rfl,
            Open.read keeps (.again ownReads rfl) otherReads otherUndecided otherFresh⟩
      | act change writes =>
          cases Option.some.inj step
          exact ⟨rfl, Or.inr (Open.settle keeps ownReads otherReads otherUndecided)⟩
      | save writes => cases ownUndecided

theorem Open.swap (opened : Open first second state race own other) :
    Open second first state race other own :=
  ⟨opened.unchanged, opened.otherReads, opened.ownReads, opened.otherUndecided,
    opened.ownUndecided, opened.otherFresh, opened.ownFresh⟩

end

/-! ## A whole run -/

section

variable {View View' : Type w} {leftView : Store → View} {rightView : Store → View'}
  {left right : Operation Store World} {state : Store × World}

/-- Where a race of two operations stands: one of them is ahead, or the race will not be
finished without a write of a party that was overtaken. -/
inductive InRace (leftView : Store → View) (rightView : Store → View')
    (left right : Operation Store World) (state : Store × World) (race : Race Store World) :
    Prop where
  | opened : Open left right state (race.store, race.world) race.left race.right →
      InRace leftView rightView left right state race
  | leftAhead :
      Ahead rightView left right state (race.store, race.world) race.left race.right →
        InRace leftView rightView left right state race
  | rightAhead :
      Ahead leftView right left state (race.store, race.world) race.right race.left →
        InRace leftView rightView left right state race
  | leftDoomed : race.left.Doomed → InRace leftView rightView left right state race
  | rightDoomed : race.right.Doomed → InRace leftView rightView left right state race

/-- What each operation writes leaves the other one's view as it is. -/
structure Apart (leftView : Store → View) (rightView : Store → View')
    (left right : Operation Store World) (state : Store × World) : Prop where
  leftLocal : left.Local leftView
  rightLocal : right.Local rightView
  leftKeeps : ∀ written ∈ (left state.1).writes state.1 state.2,
    rightView written = rightView state.1
  rightKeeps : ∀ written ∈ (right state.1).writes state.1 state.2,
    leftView written = leftView state.1

theorem inRace_step (apart : Apart leftView rightView left right state)
    (before : Race Store World) (side : Side) (after : Race Store World)
    (place : InRace leftView rightView left right state before)
    (taken : Guarded Race.UpToDate Race.Step before side after) :
    InRace leftView rightView left right state after := by
  obtain ⟨upToDate, step⟩ := taken
  cases side with
  | left =>
      obtain ⟨moved, taken, rfl⟩ := Option.map_eq_some_iff.mp step
      cases place with
      | opened opened =>
          obtain ⟨quiet, reached⟩ := opened.step apart.leftKeeps taken
          rw [quiet, Party.beside_false]
          rcases reached with still | ahead
          · exact .opened still
          · exact .leftAhead ahead
      | leftAhead ahead =>
          rcases ahead.step_first taken with later | doomed
          · exact .leftAhead later
          · exact .rightDoomed doomed
      | rightAhead ahead =>
          rcases ahead.step_second apart.leftLocal taken with later | doomed | doomed
          · exact .rightAhead later
          · exact .leftDoomed doomed
          · exact .rightDoomed doomed
      | leftDoomed doomed => exact absurd upToDate (by simp [Race.UpToDate, doomed.upToDate])
      | rightDoomed doomed => exact .rightDoomed (doomed.beside _)
  | right =>
      obtain ⟨moved, taken, rfl⟩ := Option.map_eq_some_iff.mp step
      cases place with
      | opened opened =>
          obtain ⟨quiet, reached⟩ := opened.swap.step apart.rightKeeps taken
          rw [quiet, Party.beside_false]
          rcases reached with still | ahead
          · exact .opened still.swap
          · exact .rightAhead ahead
      | leftAhead ahead =>
          rcases ahead.step_second apart.rightLocal taken with later | doomed | doomed
          · exact .leftAhead later
          · exact .rightDoomed doomed
          · exact .leftDoomed doomed
      | rightAhead ahead =>
          rcases ahead.step_first taken with later | doomed
          · exact .rightAhead later
          · exact .leftDoomed doomed
      | leftDoomed doomed => exact .leftDoomed (doomed.beside _)
      | rightDoomed doomed => exact absurd upToDate (by simp [Race.UpToDate, doomed.upToDate])

theorem Ahead.outcome {View : Type w} {view : Store → View} {first second : Operation Store World}
    {race : Store × World} {own other : Party Store World}
    (ahead : Ahead view first second state race own other) (ownDone : own.finished = true)
    (otherDone : other.finished = true) : race = second.run (first.run state) := by
  cases ahead with
  | @undecided store rest overtaken other _ _ undecided =>
      cases other with
      | waiting operation => cases otherDone
      | running stage overtaken' =>
          cases stage with
          | load more => cases otherDone
          | act change writes => cases otherDone
          | save writes => cases undecided
  | @silent store world rest overtaken overtaken' outcome =>
      cases rest with
      | nil => exact outcome.symm
      | cons written rest => cases ownDone
  | @last store world rest overtaken overtaken' outcome =>
      cases rest with
      | nil => exact outcome.symm
      | cons written rest => cases otherDone
  | clash => cases ownDone

/-- A finished race without a write of an overtaken party has the outcome of a serial
order. -/
theorem serial_of_run (apart : Apart leftView rightView left right state)
    {sides : List Side} {final : Race Store World}
    (run : Run (Guarded Race.UpToDate Race.Step) (Race.start state left right) sides final)
    (finished : final.Finished) :
    (final.store, final.world) = right.run (left.run state) ∨
      (final.store, final.world) = left.run (right.run state) := by
  have place : InRace leftView rightView left right state final :=
    run.preserves (inRace_step apart) (.opened ⟨rfl, rfl, rfl, rfl, rfl, rfl, rfl⟩)
  obtain ⟨leftDone, rightDone⟩ := finished
  cases place with
  | opened opened =>
      have undecided := opened.ownUndecided
      cases whole : final.left with
      | waiting operation => rw [whole] at leftDone; cases leftDone
      | running stage overtaken =>
          rw [whole] at leftDone undecided
          cases stage with
          | load more => cases leftDone
          | act change writes => cases leftDone
          | save writes => cases undecided
  | leftAhead ahead => exact Or.inl (ahead.outcome leftDone rightDone)
  | rightAhead ahead => exact Or.inr (ahead.outcome rightDone leftDone)
  | leftDoomed doomed => simp [doomed.finished] at leftDone
  | rightDoomed doomed => simp [doomed.finished] at rightDone

end

end

end SharedStore
