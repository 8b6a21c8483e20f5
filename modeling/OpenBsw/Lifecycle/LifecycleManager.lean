import Mathlib

/-!
# Lifecycle manager

Components are registered with a level.  The manager moves through the levels
one transition at a time: it starts the transition of all components of a
level, and goes on when all of them reported that they are done.  Names,
timestamps and transition times of the components are left out; they are only
logged.
-/

namespace OpenBsw.Lifecycle

inductive Transition
  | INIT
  | RUN
  | SHUTDOWN
  deriving DecidableEq, Repr

structure ComponentTransitionExecutor (Component : Type) where
  component : Component
  componentIndex : Nat
  transition : Transition
  isPending : Bool

structure LifecycleManager (Component : Type) where
  componentInfos : List (Option Component)
  componentTransitionExecutors : List (ComponentTransitionExecutor Component)
  /-- `max_size()` of the executors. -/
  maxExecutors : Nat
  levelIndices : List UInt8
  isTransitionPending : Bool
  transition : Transition
  transitionLevel : UInt8
  componentCount : UInt8
  levelCount : UInt8
  initLevelCount : UInt8
  currentLevel : UInt8
  targetLevel : UInt8

namespace LifecycleManager

variable {Component : Type}

/-- A new manager with room for components, executors and level indices. -/
def create (components executors levels : Nat) : LifecycleManager Component :=
  { componentInfos := List.replicate components none
    componentTransitionExecutors := []
    maxExecutors := executors
    levelIndices := List.replicate levels 0
    isTransitionPending := false
    transition := .INIT
    transitionLevel := 0
    componentCount := 0
    levelCount := 0
    initLevelCount := 0
    currentLevel := 0
    targetLevel := 0 }

def levelIndex (manager : LifecycleManager Component) (level : Nat) : UInt8 :=
  manager.levelIndices.getD level 0

/-- The difference is computed as `int` and returned as `size_t`. -/
def getLevelComponentCount (manager : LifecycleManager Component) (level : UInt8) : Nat :=
  (((manager.levelIndex level.toNat).toNat - (manager.levelIndex (level.toNat - 1)).toNat : Int) %
    2 ^ 64).toNat

/-- The loop of `addComponent` that opens the next levels. -/
def openLevels : Nat → LifecycleManager Component → LifecycleManager Component
  | 0, manager => manager
  | rounds + 1, manager =>
    let levelCount := manager.levelCount + 1
    openLevels rounds
      { manager with
        levelCount
        levelIndices := manager.levelIndices.set levelCount.toNat
          (manager.levelIndex (levelCount.toNat - 1)) }

/-- `none` where an assertion fails. -/
def addComponent (manager : LifecycleManager Component) (component : Component) (level : UInt8) :
    Option (LifecycleManager Component) :=
  if manager.componentCount.toNat < manager.componentInfos.length ∧ level > 0 ∧
      level.toNat < manager.levelIndices.length ∧ level ≥ manager.levelCount then
    let opened := openLevels (level.toNat - manager.levelCount.toNat) manager
    if opened.getLevelComponentCount level < opened.maxExecutors then
      some { opened with
        componentInfos := opened.componentInfos.set opened.componentCount.toNat (some component)
        levelIndices := opened.levelIndices.set opened.levelCount.toNat
          (opened.levelIndex opened.levelCount.toNat + 1)
        componentCount := opened.componentCount + 1 }
    else none
  else none

def transitionToLevel (manager : LifecycleManager Component) (level : UInt8) :
    LifecycleManager Component :=
  { manager with
    targetLevel :=
      if level.toNat < manager.levelIndices.length then level
      else UInt8.ofNat (manager.levelIndices.length - 1) }

/-- The first executor of the component is no longer pending. -/
def transitionDone [DecidableEq Component] (manager : LifecycleManager Component)
    (component : Component) : LifecycleManager Component :=
  { manager with
    componentTransitionExecutors := manager.componentTransitionExecutors.modify
      (manager.componentTransitionExecutors.findIdx fun executor => executor.component = component)
      fun executor => { executor with isPending := false } }

/-- The result, the manager, and what the listeners are told. -/
def checkLevelTransitionDone (manager : LifecycleManager Component) :
    Bool × LifecycleManager Component × Option (UInt8 × Transition) :=
  if ¬manager.isTransitionPending then (true, manager, none)
  else if manager.componentTransitionExecutors.any ComponentTransitionExecutor.isPending then
    (false, manager, none)
  else
    let done :=
      { manager with isTransitionPending := false, componentTransitionExecutors := [] }
    if manager.transition ≠ .INIT then
      (true, { done with transition := .INIT }, some (manager.currentLevel, manager.transition))
    else (true, done, none)

/-- The executors the loop of `execute` makes for the components of a level. -/
def levelExecutors (manager : LifecycleManager Component) (level : UInt8)
    (transition : Transition) : List (ComponentTransitionExecutor Component) :=
  let first := (manager.levelIndex (level.toNat - 1)).toNat
  let last := (manager.levelIndex level.toNat).toNat
  ((manager.componentInfos.zipIdx.take last).drop first).filterMap fun entry =>
    entry.1.map fun component =>
      { component, componentIndex := entry.2, transition, isPending := true }

/-- The next transition of `execute`, if there is one. -/
def nextTransition (manager : LifecycleManager Component) :
    Option (LifecycleManager Component) :=
  if manager.currentLevel = manager.targetLevel ∧
      manager.initLevelCount ≥ manager.targetLevel then none
  else if manager.targetLevel < manager.currentLevel then
    some { manager with
      transitionLevel := manager.currentLevel
      currentLevel := manager.currentLevel - 1
      transition := .SHUTDOWN }
  else if manager.initLevelCount < manager.targetLevel ∧
      manager.initLevelCount = manager.currentLevel then
    some { manager with
      initLevelCount := manager.initLevelCount + 1
      transitionLevel := manager.initLevelCount + 1
      transition := .INIT }
  else
    some { manager with
      currentLevel := manager.currentLevel + 1
      transitionLevel := manager.currentLevel + 1
      transition := .RUN }

/-- The end of `execute`: start the transition of all components of the level.
The executors are handed to the contexts of their components. -/
def startTransitions (manager : LifecycleManager Component) : LifecycleManager Component :=
  { manager with
    isTransitionPending := true
    componentTransitionExecutors := manager.componentTransitionExecutors ++
      manager.levelExecutors manager.transitionLevel manager.transition }

end LifecycleManager

end OpenBsw.Lifecycle
