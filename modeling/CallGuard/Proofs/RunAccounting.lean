import CallGuard.Proofs.WorkshopRuns

/-!
# Accounts of executions

Main statement: whatever is done in a workshop, the counter of a build is the number of accepted
calls of its guard and their clones, and of the runs after their callables were taken out. The
proof reads off once what an operation can change, and shows that no change upsets the accounts.
-/
namespace CallGuard.Workshop

variable {C R : Type}

/-! ### Counted callables -/

theorem run?_counted (counter : Nat) (target : Callable C R) (receiver : Option C)
    (args : List Value) :
    (target.counted counter).run? receiver args =
      (target.run? receiver args).map (Callable.tick counter) := by
  cases target <;> cases receiver <;> rfl

theorem run_tick (counter : Nat) (result : R) (counters : Counters) :
    (Callable.tick counter result).run counters = (result, counters.modify counter (· + 1)) := rfl

theorem perform_effectOf (w : Workshop C R) (receiver : Option C) (args : List Value)
    (target : Callable C (Counted R)) :
    w.perform (effectOf receiver args target) =
      match target.run? receiver args with
      | some effect =>
        (some (effect.run w.counters).1, { w with counters := (effect.run w.counters).2 })
      | none => (none, w) := by
  unfold perform effectOf
  cases target.run? receiver args <;> rfl

/-- Either way of calling a guard is its check and then the run of its callable. -/
theorem invoke_eq_delegate (g : Guard (Callable C (Counted R))) (receiver : Option C)
    (args : List Value) : invoke g receiver args = g.delegate args (effectOf receiver args) := by
  have run : g.delegate args (effectOf receiver args) =
      g.delegate args fun _ => effectOf receiver args g.target := rfl
  rw [run]
  unfold invoke
  cases g.target with
  | plain f =>
    cases receiver with
    | none => exact Guard.map_delegate (g.withTarget f) args _ _
    | some _ => rfl
  | receiving f =>
    cases receiver with
    | none => rfl
    | some _ => exact Guard.map_delegate (g.withTarget f) args _ _

/-! ### What an operation changes -/

theorem held?_addHeld (w : Workshop C R) (held : Held C R) (guard : Nat) :
    (w.addHeld held).2.held? guard =
      if guard = w.guards.length then some held else w.held? guard := by
  unfold held? addHeld
  by_cases new : guard = w.guards.length
  · simp [new]
  · rw [if_neg new, List.getElem?_append]
    split
    · rfl
    next old =>
      have beyond : w.guards[guard]? = none := List.getElem?_eq_none (by omega)
      have single : [some held][guard - w.guards.length]? = none :=
        List.getElem?_eq_none (by simp; omega)
      rw [beyond, single]

/-- No guard is new, though some may be gone. -/
structure Keeps (w next : Workshop C R) : Prop where
  held : ∀ guard held, next.held? guard = some held → w.held? guard = some held
  size : next.guards.length = w.guards.length

theorem Keeps.of_guards_eq {w next : Workshop C R} (same : next.guards = w.guards) :
    Keeps w next where
  held guard held found := by
    unfold held? at found ⊢
    rwa [← same]
  size := by rw [same]

theorem Keeps.of_guards_set {w next : Workshop C R} {guard : Nat}
    (dropped : next.guards = w.guards.set guard none) : Keeps w next where
  held other held found := by
    unfold held? at found ⊢
    rw [dropped, List.getElem?_set] at found
    split at found
    · split at found <;> cases found
    · exact found
  size := by rw [dropped, List.length_set]

/-- What an operation can do to the guards and the counters. -/
inductive Change (w : Workshop C R) : Entry C R → Workshop C R → Prop
  | idle {e : Entry C R} {next : Workshop C R} :
    e.execution? = none → (∀ l : Ledger C R, l.enter e = l) →
    next.counters = w.counters → Keeps w next → Change w e next
  | built {supply : Supply} {target : Callable C R} {config : Config} {source : Spec.Source}
      {spec : Spec} :
    source.normalize.value = .ok spec →
    Change w ⟨.build supply target config, .built w.guards.length source⟩
      (addHeld { w with counters := w.counters ++ [0] }
        { guard := { spec, config, target := target.counted w.counters.length }
          counter := w.counters.length }).2
  | cloned {guard : Nat} {held : Held C R} :
    w.held? guard = some held →
    Change w ⟨.clone guard, .cloned w.guards.length⟩ (w.addHeld held).2
  | executed {e : Entry C R} {x : Execution C R} {held : Held C R} {effect : Counted R}
      {next : Workshop C R} :
    e.execution? = some x → (∀ l : Ledger C R, l.enter e = l) →
    w.held? x.guard = some held →
    held.guard.target.run? x.receiver x.args = some effect →
    effect.run w.counters = (x.result, next.counters) → Keeps w next → Change w e next

theorem change_build (w : Workshop C R) (supply : Supply) (target : Callable C R)
    (config : Config) :
    Change w ⟨.build supply target config, (w.step (.build supply target config)).1⟩
      (w.step (.build supply target config)).2 := by
  simp only [step]
  cases supplied : supply.source? w with
  | none => exact .idle rfl (fun _ => rfl) rfl (.of_guards_eq rfl)
  | some source =>
    simp only [build, Logged.value_bind, Guard.value_build]
    cases normal : source.normalize.value with
    | error e => exact .idle rfl (fun _ => rfl) rfl (.of_guards_eq rfl)
    | ok spec => exact .built normal

theorem change_clone (w : Workshop C R) (guard : Nat) :
    Change w ⟨.clone guard, (w.step (.clone guard)).1⟩ (w.step (.clone guard)).2 := by
  simp only [step, clone]
  cases found : w.held? guard with
  | none => exact .idle rfl (fun _ => rfl) rfl (.of_guards_eq rfl)
  | some held => exact .cloned found

theorem change_call (w : Workshop C R) (guard : Nat) (receiver : Option C) (args : List Value) :
    Change w ⟨.call guard receiver args, (w.step (.call guard receiver args)).1⟩
      (w.step (.call guard receiver args)).2 := by
  simp only [step, call, invoke_eq_delegate]
  cases found : w.held? guard with
  | none => exact .idle rfl (fun _ => rfl) rfl (.of_guards_eq rfl)
  | some held =>
    -- The callable is reached only behind an accepting check, and in its own way of being called.
    simp only [Option.map_some, Logged.value_bind, Guard.value_delegate]
    cases (held.guard.check args).value with
    | error m => exact .idle rfl (fun _ => rfl) rfl (.of_guards_eq rfl)
    | ok =>
      simp only [Except.map, perform_effectOf]
      cases effect : held.guard.target.run? receiver args with
      | none => exact .idle rfl (fun _ => rfl) rfl (.of_guards_eq rfl)
      | some run => exact .executed rfl (fun _ => rfl) found effect rfl (.of_guards_eq rfl)

theorem change_unwrap (w : Workshop C R) (guard : Nat) (receiver : Option C)
    (args : List Value) :
    Change w ⟨.unwrap guard receiver args, (w.step (.unwrap guard receiver args)).1⟩
      (w.step (.unwrap guard receiver args)).2 := by
  simp only [step, unwrap]
  cases found : w.held? guard with
  | none => exact .idle rfl (fun _ => rfl) rfl (.of_guards_eq rfl)
  | some held =>
    simp only [Option.map_some, perform_effectOf]
    cases effect : held.guard.target.run? receiver args with
    | none => exact .idle rfl (fun _ => rfl) rfl (.of_guards_set rfl)
    | some run => exact .executed rfl (fun _ => rfl) found effect rfl (.of_guards_set rfl)

/-- Every operation is one of the changes. -/
theorem change_step (w : Workshop C R) (op : Operation C R) :
    Change w ⟨op, (w.step op).1⟩ (w.step op).2 := by
  cases op with
  | addRegistry r => exact .idle rfl (fun _ => rfl) rfl (.of_guards_eq rfl)
  | register registry name d =>
    simp only [step, register]
    cases w.registry? registry <;> exact .idle rfl (fun _ => rfl) rfl (.of_guards_eq rfl)
  | addSpec s => exact .idle rfl (fun _ => rfl) rfl (.of_guards_eq rfl)
  | insertEntry spec key d => exact .idle rfl (fun _ => rfl) rfl (.of_guards_eq rfl)
  | build supply target config => exact change_build w supply target config
  | clone guard => exact change_clone w guard
  | call guard receiver args => exact change_call w guard receiver args
  | check guard args =>
    simp only [step, check]
    cases w.held? guard <;> exact .idle rfl (fun _ => rfl) rfl (.of_guards_eq rfl)
  | unwrap guard receiver args => exact change_unwrap w guard receiver args

/-! ### Ledgers that grow -/

/-- What a ledger says of a handle or a build stays. -/
structure Ledger.Extends (l next : Ledger C R) : Prop where
  origin : ∀ guard build, l.origin guard = some build → next.origin guard = some build
  plans : ∀ (build : Nat) (plan : Plan C R),
    l.plans[build]? = some plan → next.plans[build]? = some plan

/-- The execution is what its plan says: the result is that of the callable. -/
def Ledger.Explains (l : Ledger C R) (x : Execution C R) : Prop :=
  ∃ build plan, l.origin x.guard = some build ∧ l.plans[build]? = some plan ∧
    plan.target.run? x.receiver x.args = some x.result

theorem Ledger.Extends.explains {l next : Ledger C R} (extended : l.Extends next)
    {x : Execution C R} (explained : l.Explains x) : next.Explains x := by
  obtain ⟨build, plan, origin, planned, result⟩ := explained
  exact ⟨build, plan, extended.origin _ _ origin, extended.plans _ _ planned, result⟩

/-- New handles are no handles of old executions. -/
theorem Ledger.Extends.tally {l next : Ledger C R} (extended : l.Extends next)
    {xs : List (Execution C R)} (explained : ∀ x ∈ xs, l.Explains x) :
    next.tally xs = l.tally xs := by
  funext build
  refine List.countP_congr fun x member => ?_
  obtain ⟨first, _, origin, _⟩ := explained x member
  rw [origin, extended.origin _ _ origin]

theorem tally_append (l : Ledger C R) (xs : List (Execution C R)) {x : Execution C R}
    {first : Nat} (origin : l.origin x.guard = some first) (build : Nat) :
    l.tally (xs ++ [x]) build = l.tally xs build + if build = first then 1 else 0 := by
  rw [Ledger.tally, List.countP_append, List.countP_singleton, origin]
  by_cases same : build = first
  · simp [Ledger.tally, same]
  · simp [Ledger.tally, same, Ne.symm same]

theorem modify_map_range (f : Nat → Nat) (size first : Nat) :
    ((List.range size).map f).modify first (· + 1) =
      (List.range size).map fun i => f i + if i = first then 1 else 0 := by
  apply List.ext_getElem?
  intro i
  rw [List.getElem?_modify, List.getElem?_map, List.getElem?_map]
  by_cases inside : i < size
  · rw [List.getElem?_range inside]
    by_cases same : first = i
    · simp [same]
    · simp [same, Ne.symm same]
  · rw [List.getElem?_eq_none (by simpa using inside)]
    split <;> rfl

/-! ### Accounts -/

/-- The guard is what its plan says, and it counts under the number of its build. -/
structure Plan.Made (plan : Plan C R) (build : Nat) (held : Held C R) : Prop where
  spec : plan.source.normalize.value = .ok held.guard.spec
  config : held.guard.config = plan.config
  target : held.guard.target = plan.target.counted build
  counter : held.counter = build

/-- A workshop is in accordance with a ledger and the executions so far. -/
structure Accounted (l : Ledger C R) (xs : List (Execution C R)) (w : Workshop C R) : Prop where
  issued : ∀ guard build, l.origin guard = some build →
    guard < w.guards.length ∧ build < l.plans.length
  made : ∀ guard held, w.held? guard = some held →
    ∃ build plan, l.origin guard = some build ∧ l.plans[build]? = some plan ∧ plan.Made build held
  explained : ∀ x ∈ xs, l.Explains x
  counters : w.counters = (List.range l.plans.length).map (l.tally xs)

theorem accounted_empty : Accounted ({} : Ledger C R) [] {} where
  issued guard build origin := by cases origin
  made guard held found := by simp [held?] at found
  explained x member := by cases member
  counters := rfl

variable {l : Ledger C R} {xs : List (Execution C R)} {w next : Workshop C R}

theorem Accounted.idle (accounted : Accounted l xs w) (counters : next.counters = w.counters)
    (keeps : Keeps w next) : Accounted l xs next where
  issued guard build origin := keeps.size ▸ accounted.issued guard build origin
  made guard held found := accounted.made guard held (keeps.held guard held found)
  explained := accounted.explained
  counters := counters.trans accounted.counters

theorem Accounted.executed (accounted : Accounted l xs w) {x : Execution C R} {held : Held C R}
    {effect : Counted R} (found : w.held? x.guard = some held)
    (ran : held.guard.target.run? x.receiver x.args = some effect)
    (result : effect.run w.counters = (x.result, next.counters)) (keeps : Keeps w next) :
    Accounted l (xs ++ [x]) next := by
  obtain ⟨build, plan, origin, planned, made⟩ := accounted.made _ _ found
  -- The callable of the guard is that of the plan, counted.
  rw [made.target, run?_counted] at ran
  obtain ⟨answer, answered, rfl⟩ := Option.map_eq_some_iff.mp ran
  rw [run_tick] at result
  obtain ⟨same, ticked⟩ := Prod.mk.inj result
  refine ⟨?_, ?_, ?_, ?_⟩
  · intro guard build origin
    exact keeps.size ▸ accounted.issued guard build origin
  · intro guard held found
    exact accounted.made guard held (keeps.held guard held found)
  · intro y member
    rcases List.mem_append.mp member with old | new
    · exact accounted.explained y old
    · rw [List.mem_singleton.mp new]
      exact ⟨build, plan, origin, planned, same ▸ answered⟩
  · rw [← ticked, accounted.counters, modify_map_range]
    exact congrArg (List.map · _) (funext fun i => (tally_append l xs origin i).symm)

theorem Accounted.tally_fresh (accounted : Accounted l xs w) : l.tally xs l.plans.length = 0 := by
  refine List.countP_eq_zero.mpr fun x member => ?_
  obtain ⟨build, _, origin, -, -⟩ := accounted.explained x member
  -- What has run goes back to a build that the ledger has, and the next number is not yet taken.
  have earlier := (accounted.issued _ _ origin).2
  rw [origin, beq_iff_eq, Option.some.injEq]
  omega

/-- The next handle is new, so the ledger may say where it comes from. -/
theorem Accounted.extends_enter (accounted : Accounted l xs w) {e : Entry C R} {build : Option Nat}
    {plans : List (Plan C R)}
    (entered : l.enter e =
      { plans := l.plans ++ plans
        origin := fun h => if h = w.guards.length then build else l.origin h }) :
    l.Extends (l.enter e) := by
  rw [entered]
  constructor
  · intro guard first origin
    have old := (accounted.issued guard first origin).1
    exact (if_neg (Nat.ne_of_lt old)).trans origin
  · intro first plan planned
    obtain ⟨inside, _⟩ := List.getElem?_eq_some_iff.mp planned
    rw [List.getElem?_append_left inside, planned]

theorem Accounted.built (accounted : Accounted l xs w) {supply : Supply} {target : Callable C R}
    {config : Config} {source : Spec.Source} {spec : Spec}
    (normal : source.normalize.value = .ok spec) :
    Accounted (l.enter ⟨.build supply target config, .built w.guards.length source⟩) xs
      (addHeld { w with counters := w.counters ++ [0] }
        { guard := { spec, config, target := target.counted w.counters.length }
          counter := w.counters.length }).2 := by
  have number : w.counters.length = l.plans.length := by simp [accounted.counters]
  have extended : l.Extends
      (l.enter ⟨.build supply target config, .built w.guards.length source⟩) :=
    accounted.extends_enter rfl
  refine ⟨?_, ?_, fun x member => extended.explains (accounted.explained x member), ?_⟩
  · intro guard build origin
    simp only [addHeld, Ledger.enter, List.length_append, List.length_singleton] at origin ⊢
    split at origin
    next new =>
      cases origin
      omega
    next =>
      have old := accounted.issued guard build origin
      omega
  · intro guard held found
    rw [held?_addHeld] at found
    split at found
    next new =>
      cases found
      -- Builds and counters are numbered alike.
      refine ⟨l.plans.length, { source, config, target }, if_pos new, ?_, normal, rfl, ?_, number⟩
      · exact List.getElem?_concat_length
      · rw [number]
    next =>
      obtain ⟨build, plan, origin, planned, made⟩ := accounted.made guard held found
      exact ⟨build, plan, extended.origin _ _ origin, extended.plans _ _ planned, made⟩
  · have counters : (addHeld { w with counters := w.counters ++ [0] }
        { guard := { spec, config, target := target.counted w.counters.length }
          counter := w.counters.length }).2.counters = w.counters ++ [0] := rfl
    rw [counters, extended.tally accounted.explained, accounted.counters]
    simp [Ledger.enter, List.range_succ, accounted.tally_fresh]

theorem Accounted.cloned (accounted : Accounted l xs w) {guard : Nat} {held : Held C R}
    (found : w.held? guard = some held) :
    Accounted (l.enter ⟨.clone guard, .cloned w.guards.length⟩) xs (w.addHeld held).2 := by
  have entered : l.enter ⟨.clone guard, .cloned w.guards.length⟩ =
      { plans := l.plans ++ []
        origin := fun h => if h = w.guards.length then l.origin guard else l.origin h } := by
    rw [List.append_nil]
    rfl
  have extended := accounted.extends_enter entered
  refine ⟨?_, ?_, fun x member => extended.explains (accounted.explained x member), ?_⟩
  · intro copy build origin
    simp only [addHeld, Ledger.enter, List.length_append, List.length_singleton] at origin ⊢
    split at origin
    next new =>
      have old := accounted.issued guard build origin
      omega
    next =>
      have old := accounted.issued copy build origin
      omega
  · intro copy other issued
    rw [held?_addHeld] at issued
    split at issued
    next new =>
      cases issued
      -- The copy holds what its original holds, the counter included.
      obtain ⟨build, plan, origin, planned, made⟩ := accounted.made guard held found
      exact ⟨build, plan, (if_pos new).trans origin, planned, made⟩
    next =>
      obtain ⟨build, plan, origin, planned, made⟩ := accounted.made copy other issued
      exact ⟨build, plan, extended.origin _ _ origin, planned, made⟩
  · rw [extended.tally accounted.explained]
    exact accounted.counters

/-! ### Runs -/

theorem Accounted.change (accounted : Accounted l xs w) {e : Entry C R}
    (changed : Change w e next) : Accounted (l.enter e) (xs ++ e.execution?.toList) next := by
  cases changed with
  | idle quiet unentered counters keeps =>
    rw [unentered, quiet, Option.toList_none, List.append_nil]
    exact accounted.idle counters keeps
  | built normal =>
    change Accounted _ (xs ++ []) _
    rw [List.append_nil]
    exact accounted.built normal
  | cloned found =>
    change Accounted _ (xs ++ []) _
    rw [List.append_nil]
    exact accounted.cloned found
  | executed execution unentered found ran result keeps =>
    rw [unentered, execution, Option.toList_some]
    exact accounted.executed found ran result keeps

theorem executions_cons (e : Entry C R) (rest : List (Entry C R)) :
    executions (e :: rest) = e.execution?.toList ++ executions rest := by
  rw [executions, List.filterMap_cons]
  cases e.execution? <;> rfl

theorem Accounted.run (accounted : Accounted l xs w) (ops : List (Operation C R)) :
    Accounted ((w.run ops).1.foldl Ledger.enter l) (xs ++ executions (w.run ops).1)
      (w.run ops).2 := by
  -- The run goes on from any workshop that is in accordance with its record.
  induction ops generalizing l xs w with
  | nil => simpa [Workshop.run, executions] using accounted
  | cons op rest ih =>
    have stepped := ih (accounted.change (w.change_step op))
    rw [List.append_assoc, ← executions_cons] at stepped
    exact stepped

/-! ### Answers -/

/-- A call is answered by the check of the guard and, if that accepts, by the callable. -/
theorem step_call_of_run? {guard : Nat} {held : Held C R} (found : w.held? guard = some held)
    {receiver : Option C} {args : List Value} {effect : Counted R}
    (fits : held.guard.target.run? receiver args = some effect) :
    (w.step (.call guard receiver args)).1 =
      .called ((held.guard.check args).value.map fun _ => (effect.run w.counters).1) := by
  simp only [step, call, invoke_eq_delegate, found, Option.map_some, Logged.value_bind,
    Guard.value_delegate]
  cases (held.guard.check args).value with
  | error m => rfl
  | ok => simp [Except.map, perform_effectOf, fits]

theorem step_unwrap_of_run? {guard : Nat} {held : Held C R} (found : w.held? guard = some held)
    {receiver : Option C} {args : List Value} {effect : Counted R}
    (fits : held.guard.target.run? receiver args = some effect) :
    (w.step (.unwrap guard receiver args)).1 = .ran (effect.run w.counters).1 := by
  simp [step, unwrap, found, perform_effectOf, fits]

theorem isIdle_of_execution {e : Entry C R} {x : Execution C R}
    (execution : e.execution? = some x) : e.outcome.isIdle = false := by
  unfold Entry.execution? at execution
  split at execution
  · rfl
  · rfl
  · cases execution

/-- Where nothing is built and no callable runs, no counter changes. -/
theorem Change.counters_of_isIdle {e : Entry C R} (changed : Change w e next)
    (idle : e.outcome.isIdle) : next.counters = w.counters := by
  cases changed with
  | idle _ _ counters _ => exact counters
  | built => cases idle
  | cloned => rfl
  | executed execution =>
    rw [isIdle_of_execution execution] at idle
    cases idle

/-! ### Main statement -/

/-- After any operations the counter of a build is the number of executions that go back to it.
Every guard has the specification and the configuration that its build fixed, and answers as its
callable does if its check accepts; every execution returned what its callable returns. An operation
by which nothing is built and nothing runs leaves all counters as they were. -/
theorem counters_eq_tally (ops : List (Operation C R)) :
    let record := (run ({} : Workshop C R) ops).1
    let w := (run ({} : Workshop C R) ops).2
    let l := ledger record
    w.counters = (List.range l.plans.length).map (l.tally (executions record)) ∧
    (∀ guard held, w.held? guard = some held →
      ∃ build plan, l.origin guard = some build ∧ l.plans[build]? = some plan ∧
        w.runs held = l.tally (executions record) build ∧
        plan.source.normalize.value = .ok held.guard.spec ∧ held.guard.config = plan.config ∧
        ∀ receiver args result, plan.target.run? receiver args = some result →
          (w.step (.call guard receiver args)).1 =
            .called ((held.guard.check args).value.map fun _ => result) ∧
          (w.step (.unwrap guard receiver args)).1 = .ran result) ∧
    (∀ x ∈ executions record,
      ∃ build plan, l.origin x.guard = some build ∧ l.plans[build]? = some plan ∧
        plan.target.run? x.receiver x.args = some x.result) ∧
    (∀ op, (w.step op).1.isIdle → (w.step op).2.counters = w.counters) := by
  intro record w l
  have accounted : Accounted l (executions record) w := accounted_empty.run ops
  refine ⟨accounted.counters, ?_, accounted.explained, ?_⟩
  · intro guard held found
    obtain ⟨build, plan, origin, planned, made⟩ := accounted.made guard held found
    refine ⟨build, plan, origin, planned, ?_, made.spec, made.config, ?_⟩
    · have inside := (accounted.issued guard build origin).2
      rw [runs, made.counter, accounted.counters, List.getElem?_map, List.getElem?_range inside]
      rfl
    · intro receiver args result returned
      have fits : held.guard.target.run? receiver args = some (Callable.tick build result) := by
        rw [made.target, run?_counted, returned, Option.map_some]
      exact ⟨step_call_of_run? found fits, step_unwrap_of_run? found fits⟩
  · intro op idle
    exact (w.change_step op).counters_of_isIdle idle

/-- A guard and its clone share a counter: one call is accepted, one is rejected, and one run
follows when the callable is taken out. A name that is registered anew changes nothing for them. -/
theorem counters_eq_tally_family :
    let ops : List (Operation Unit Nat) :=
      [.addRegistry .standard,
        .build (.json (.array [.string "Boolean"]) 0) (.plain List.length) {},
        .clone 0,
        .register 0 "Boolean" .string,
        .call 1 none [.boolean true],
        .call 0 none [.string "true"],
        .unwrap 0 none []]
    let w := (run {} ops).2
    w.counters = [2] ∧
    (∃ held, w.held? 1 = some held ∧ w.runs held = 2 ∧
      held.guard.spec = Spec.positional [.boolean] ∧ held.guard.config = {}) ∧
    (w.step (.call 1 none [.null])).2.counters = [2] := by
  intro ops w
  obtain ⟨counters, guards, -, idle⟩ := counters_eq_tally ops
  obtain ⟨held, found⟩ : ∃ held, w.held? 1 = some held := ⟨_, rfl⟩
  obtain ⟨build, plan, origin, planned, runs, normal, config, -⟩ := guards 1 held found
  have first : build = 0 := Option.some.inj (origin.symm.trans rfl)
  subst first
  have fixed : plan =
      { source := .json (.array [.string "Boolean"]) .standard
        config := {}
        target := .plain List.length } := Option.some.inj (planned.symm.trans rfl)
  subst fixed
  exact ⟨counters, ⟨held, found, runs, (Except.ok.inj normal).symm, config⟩,
    (idle (.call 1 none [.null]) rfl).trans counters⟩

end CallGuard.Workshop
