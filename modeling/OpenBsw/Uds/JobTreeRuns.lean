import OpenBsw.Transition.System
import OpenBsw.Uds.JobDispatch
import OpenBsw.Uds.JobRemoval

/-!
# Runs of the job tree

Jobs are added to the root and removed from it in any order.  A run records the
jobs that were added and not removed since.
-/

namespace OpenBsw.Uds

open List

universe u

open OpenBsw.Transition
open JobTree
open AbstractDiagJob

structure JobTreeRun (ι : Type u) where
  tree : JobTree ι := {}
  /-- The jobs for which adding returned `JOB_ADDED` and that were not removed since. -/
  present : List ι := []

inductive JobTreeEvent (ι : Type u) where
  | add (job : ι)
  | remove (job : ι)

namespace JobTreeRun

variable {ι : Type u} [DecidableEq ι] (requests : ι → JobRequest) (root : ι)

/-- Enough for every loop in the tree. -/
def width (run : JobTreeRun ι) : Nat :=
  run.present.length + 1

/-- Enough for every search for a parent, since a request has less than 256 bytes. -/
def depth : Nat := 257

/-- Adding a job to the root. -/
def add (run : JobTreeRun ι) (job : ι) : Option (JobTree ι × JobErrorCode) :=
  addAbstractDiagJob requests run.width depth run.tree root job

/-- Removing a job from the root. -/
def remove (run : JobTreeRun ι) (job : ι) : Option (JobTree ι) :=
  removeAbstractDiagJob requests (258 * (run.present.length + 2) + 1) run.tree root job

/-- The root executes a request. -/
def execute {σ : Type*} (behaviour : JobBehaviour ι σ) (run : JobTreeRun ι)
    (dispatch : Dispatch σ) (requestLength : Nat) : Option (Dispatch σ × UInt8) :=
  behaviour.executeRoot requests run.tree root run.width depth dispatch requestLength

/-- The run after an event. -/
def perform (run : JobTreeRun ι) : JobTreeEvent ι → Option (JobTreeRun ι)
  | .add job => (run.add requests root job).map fun added =>
    { tree := added.1
      present := if added.2 = .JOB_ADDED then run.present ++ [job] else run.present }
  | .remove job => (run.remove requests root job).map fun tree =>
    { tree, present := run.present.erase job }

def system : System (JobTreeRun ι) (JobTreeEvent ι) where
  Initial run := run = {}
  Step source event target := source.perform requests root event = some target

/-- Only jobs without children are removed. -/
def Removable (run : JobTreeRun ι) : JobTreeEvent ι → Prop
  | .add _ => True
  | .remove job => job ∈ run.present → run.tree.firstChild job = none

/-- One pointer leads from a job to another one. -/
def Points (tree : JobTree ι) (first second : ι) : Prop :=
  tree.firstChild first = some second ∨ tree.nextJob first = some second

/-- The list of the children of a job. -/
def HasChildren (tree : JobTree ι) (parent : ι) (children : List ι) : Prop :=
  Leads tree.nextJob (tree.firstChild parent) children

/-- The tree holds exactly the jobs that were added. -/
structure Correct (run : JobTreeRun ι) : Prop where
  acyclic : ∀ job ∈ root :: run.present, ¬ Relation.TransGen (Points run.tree) job job
  contents : ∀ job, Relation.ReflTransGen (Points run.tree) root job ↔ job ∈ root :: run.present
  once : (root :: run.present).Nodup
  /-- A job is in the list of the one parent whose whole request equals its prefix. -/
  parent : ∀ job ∈ run.present, ∃ parent ∈ root :: run.present,
    (requests parent).whole = (requests job).whole.take (requests job).prefixLength ∧
    ∀ other ∈ root :: run.present, ∃ children, HasChildren run.tree other children ∧
      children.Nodup ∧ (job ∈ children ↔ other = parent)
  unequal : ∀ first ∈ run.present, ∀ second ∈ run.present, first ≠ second →
    equal (requests first) (requests second) = false
  /-- Adding fails for an equal job, and without a parent. -/
  added : ∀ job, ∃ tree code, run.add requests root job = some (tree, code) ∧
    (code = .JOB_NOT_ADDED ↔
      (∃ other ∈ root :: run.present,
        other = job ∨ equal (requests other) (requests job) = true) ∨
      ¬ ∃ parent ∈ root :: run.present,
        (requests parent).whole = (requests job).whole.take (requests job).prefixLength)
  removed : ∀ job, Removable run (.remove job) → ∃ tree, run.remove requests root job = some tree

/-! ## The pointers -/

variable {requests root} {tree : JobTree ι} {present : List ι} {parent job second : ι}
  {run : JobTreeRun ι}

/-- How deeply a search from the job on is nested. -/
def rank (requests : ι → JobRequest) (root : ι) (present : List ι) (parent job : ι) : Nat :=
  searchFuel requests root present parent
    ((kids requests root present parent).length - (kids requests root present parent).idxOf job)

/-- A pointer leads to a child of some job, with a smaller rank. -/
theorem rank_lt (represents : Represents requests root tree present)
    (application : Application requests root) (parentMember : parent ∈ root :: present)
    (isKid : job ∈ kids requests root present parent) (points : Points tree job second) :
    ∃ other ∈ root :: present, second ∈ kids requests root present other ∧
      rank requests root present other second < rank requests root present parent job := by
  obtain ⟨inTree, child⟩ := mem_kids.mp isKid
  rcases points with down | right
  · have start := (represents.linked job (mem_cons_of_mem _ inTree)).start_eq
    obtain ⟨rest, kidsEq⟩ := List.head?_eq_some_iff.mp (start.symm.trans down)
    refine ⟨job, mem_cons_of_mem _ inTree, kidsEq ▸ mem_cons_self, ?_⟩
    have deeper := application.searchFuel_kid present child
      (represents.ne_root inTree)
    rw [rank, rank]
    refine Nat.lt_of_le_of_lt ?_ (deeper _)
    rw [searchFuel, searchFuel]
    omega
  · obtain ⟨front, rest, kidsEq⟩ := append_of_mem isKid
    have leads := represents.linked parent parentMember
    have nodup : (kids requests root present parent).Nodup :=
      (nodup_cons.mp represents.nodup).2.filter _
    rw [kidsEq] at leads nodup
    obtain ⟨others, rfl⟩ := List.head?_eq_some_iff.mp (leads.next_eq.symm.trans right)
    refine ⟨parent, parentMember, ?_, ?_⟩
    · rw [kidsEq]
      exact mem_append_right _ (mem_cons_of_mem _ mem_cons_self)
    · have apart := disjoint_of_nodup_append nodup
      have different : job ≠ second := by
        rintro rfl
        exact (nodup_cons.mp (nodup_append.mp nodup).2.1).1 mem_cons_self
      rw [rank, rank, searchFuel, searchFuel, kidsEq,
        idxOf_append_of_notMem fun member => apart member mem_cons_self,
        idxOf_append_of_notMem fun member =>
          apart member (mem_cons_of_mem _ mem_cons_self),
        idxOf_cons_self, idxOf_cons_ne _ different, idxOf_cons_self,
        List.length_append, length_cons, length_cons]
      omega

/-- The first child of the root is the only job it points to. -/
theorem kid_of_points_root (represents : Represents requests root tree present)
    (points : Points tree root second) : second ∈ kids requests root present root := by
  rcases points with down | right
  · have start := (represents.linked root mem_cons_self).start_eq
    exact mem_of_mem_head? (start.symm.trans down)
  · rw [represents.rootNext] at right
    cases right

/-- Pointers lead to jobs in the tree. -/
theorem mem_of_points (represents : Represents requests root tree present)
    (application : Application requests root) (member : job ∈ root :: present)
    (points : Points tree job second) : second ∈ present := by
  rcases mem_cons.mp member with rfl | inTree
  · exact (mem_kids.mp (kid_of_points_root represents points)).1
  · obtain ⟨parent, parentMember, child⟩ := represents.parent job inTree
    obtain ⟨other, _, isKid, _⟩ := rank_lt represents application parentMember
      (mem_kids.mpr ⟨inTree, child⟩) points
    exact (mem_kids.mp isKid).1

theorem mem_of_path (represents : Represents requests root tree present)
    (application : Application requests root) (member : job ∈ root :: present)
    (path : Relation.ReflTransGen (Points tree) job second) : second ∈ root :: present := by
  induction path with
  | refl => exact member
  | tail _ points ih =>
    exact mem_cons_of_mem _ (mem_of_points represents application ih points)

/-- A path ends at a child of some job, with a smaller rank. -/
theorem rank_lt_of_path (represents : Represents requests root tree present)
    (application : Application requests root) (parentMember : parent ∈ root :: present)
    (isKid : job ∈ kids requests root present parent)
    (path : Relation.TransGen (Points tree) job second) :
    ∃ other ∈ root :: present, second ∈ kids requests root present other ∧
      rank requests root present other second < rank requests root present parent job := by
  induction path with
  | single points => exact rank_lt represents application parentMember isKid points
  | tail _ points ih =>
    obtain ⟨between, betweenMember, betweenKid, less⟩ := ih
    obtain ⟨other, otherMember, otherKid, further⟩ :=
      rank_lt represents application betweenMember betweenKid points
    exact ⟨other, otherMember, otherKid, Nat.lt_trans further less⟩

/-- No path leads back. -/
theorem acyclic_of_represents (represents : Represents requests root tree present)
    (application : Application requests root) (member : job ∈ root :: present) :
    ¬ Relation.TransGen (Points tree) job job := by
  intro path
  have inTree : job ∈ present := by
    obtain ⟨last, path, points⟩ := Relation.TransGen.tail'_iff.mp path
    exact mem_of_points represents application (mem_of_path represents application member path)
      points
  obtain ⟨parent, parentMember, child⟩ := represents.parent job inTree
  obtain ⟨other, otherMember, otherKid, less⟩ := rank_lt_of_path represents application
    parentMember (mem_kids.mpr ⟨inTree, child⟩) path
  obtain rfl := represents.parent_unique application otherMember parentMember
    (mem_kids.mp otherKid).2 child
  exact Nat.lt_irrefl _ less

/-- The jobs in the tree are reached from the root. -/
theorem path_of_below (represents : Represents requests root tree present)
    (member : parent ∈ root :: present) (below : Below requests root present parent job) :
    Relation.ReflTransGen (Points tree) parent job := by
  induction below with
  | refl => exact .refl
  | @child parent kid job isKid below ih =>
    have leads := represents.linked parent member
    have further := ih (mem_cons_of_mem _ (mem_kids.mp isKid).1)
    cases start : tree.firstChild parent with
    | none =>
      rw [start] at leads
      rw [List.head?_eq_none_iff.mp leads.start_eq.symm] at isKid
      exact absurd isKid not_mem_nil
    | some first =>
      have sideways : ∀ left right, tree.nextJob left = some right → Points tree left right :=
        fun _ _ points => .inr points
      rw [start] at leads
      have siblings : Relation.ReflTransGen (Points tree) first kid :=
        Relation.ReflTransGen.mono sideways _ _ (leads.reaches isKid)
      exact (Relation.ReflTransGen.head (.inl start) siblings).trans further

/-! ## The invariant -/

/-- The empty tree. -/
theorem represents_empty : Represents requests root {} [] where
  nodup := nodup_singleton root
  linked := fun _ _ => rfl
  parent := fun _ member => absurd member not_mem_nil
  unequal := fun _ member => absurd member not_mem_nil
  rootNext := rfl

/-- A job without a child pointer has no children. -/
theorem kids_eq_nil (represents : Represents requests root tree present)
    (member : job ∈ present) (noChild : tree.firstChild job = none) :
    kids requests root present job = [] := by
  have start := (represents.linked job (mem_cons_of_mem _ member)).start_eq
  exact List.head?_eq_none_iff.mp (start.symm.trans noChild)

/-- Removing a job ends, and takes it out. -/
theorem remove_represents (application : Application requests root)
    (represents : Represents requests root run.tree run.present)
    (removable : Removable run (.remove job)) :
    ∃ tree, run.remove requests root job = some tree ∧
      Represents requests root tree (run.present.erase job) := by
  obtain ⟨absent, inTree⟩ := represents.remove_spec application job
    (258 * (run.present.length + 2) + 1) (Nat.lt_succ_self _)
  by_cases member : job ∈ run.present
  · exact inTree member (kids_eq_nil represents member (removable member))
  · refine ⟨run.tree, absent member, ?_⟩
    rw [erase_of_not_mem member]
    exact represents

/-- The tree represents the jobs that were added. -/
theorem represents_inductive (application : Application requests root) :
    ((system requests root).restrict Removable).Inductive
      fun run => Represents requests root run.tree run.present where
  initial := by
    rintro _ rfl
    exact represents_empty
  step := by
    rintro source event target represents ⟨performed, removable⟩
    cases event with
    | add job =>
      obtain ⟨⟨tree, code⟩, added, rfl⟩ := Option.map_eq_some_iff.mp performed
      rcases represents.add_spec application job (Nat.lt_succ_self _)
        (Nat.le_refl depth) with ⟨_, _, linked, succeeded, further⟩ | ⟨_, failed⟩
      · obtain ⟨rfl, rfl⟩ := Prod.mk.inj (Option.some.inj (added.symm.trans succeeded))
        exact further
      · obtain ⟨rfl, rfl⟩ := Prod.mk.inj (Option.some.inj (added.symm.trans failed))
        exact represents
    | remove job =>
      obtain ⟨tree, removed, rfl⟩ := Option.map_eq_some_iff.mp performed
      obtain ⟨unlinked, succeeded, further⟩ := remove_represents application represents removable
      obtain rfl := Option.some.inj (removed.symm.trans succeeded)
      exact further

/-- A tree that represents the added jobs is correct. -/
theorem correct_of_represents (application : Application requests root)
    (represents : Represents requests root run.tree run.present) : Correct requests root run where
  acyclic := fun _ member => acyclic_of_represents represents application member
  contents := fun job =>
    ⟨mem_of_path represents application mem_cons_self, fun member =>
      path_of_below represents mem_cons_self (represents.below_root application member)⟩
  once := represents.nodup
  parent := by
    intro job inTree
    obtain ⟨parent, parentMember, child⟩ := represents.parent job inTree
    refine ⟨parent, parentMember, (application.childOf_iff.mp child).2, fun other otherMember =>
      ⟨kids requests root run.present other, represents.linked other otherMember,
        (nodup_cons.mp represents.nodup).2.filter _, fun isKid => ?_, ?_⟩⟩
    · exact represents.parent_unique application otherMember parentMember
        (mem_kids.mp isKid).2 child
    · rintro rfl
      exact mem_kids.mpr ⟨inTree, child⟩
  unequal := represents.unequal
  added := by
    intro job
    have isPresent : (∃ other ∈ root :: run.present,
        other = job ∨ equal (requests other) (requests job) = true) ↔
          IsPresent requests root run.present job := by
      simp only [IsPresent, isIdentical_iff]
    rw [isPresent, ← application.hasParent_iff]
    rcases represents.add_spec application job (Nat.lt_succ_self _)
      (Nat.le_refl depth) with ⟨new, hasParent, linked, succeeded, _⟩ | ⟨refused, failed⟩
    · refine ⟨linked, .JOB_ADDED, succeeded, iff_of_false (fun same => by cases same) ?_⟩
      rintro (present | missing)
      · exact new present
      · exact missing hasParent
    · exact ⟨run.tree, .JOB_NOT_ADDED, failed, iff_of_true rfl refused⟩
  removed := fun _ removable => by
    obtain ⟨tree, removed, _⟩ := remove_represents application represents removable
    exact ⟨tree, removed⟩

/-- In every run the tree holds the added jobs, each below its parent, and if no request is for
two of the children of a job, the root executes requests in the same way for every order of
registration. -/
theorem jobTree_exact {σ : Type*} (application : Application requests root)
    (reached : ((system requests root).restrict Removable).Reachable run) :
    Correct requests root run ∧
    ∀ behaviour : JobBehaviour ι σ, Verifying behaviour requests →
      Disjoint requests run.present →
      ∀ other, ((system requests root).restrict Removable).Reachable other →
        run.present.Perm other.present →
        ∀ dispatch requestLength, ∃ executed,
          run.execute requests root behaviour dispatch requestLength = some executed ∧
          other.execute requests root behaviour dispatch requestLength = some executed := by
  have represents := (represents_inductive application).of_reachable reached
  refine ⟨correct_of_represents application represents, ?_⟩
  intro behaviour verifying disjoint other otherReached perm dispatch requestLength
  have otherRepresents := (represents_inductive application).of_reachable otherReached
  have sameWidth : other.width = run.width := congrArg (· + 1) perm.length_eq.symm
  rw [execute, execute, sameWidth]
  exact executeRoot_perm application verifying represents otherRepresents perm disjoint
    (Nat.lt_succ_self _) (by decide)

/-! ## Orders of registration -/

instance (run : JobTreeRun ι) : (event : JobTreeEvent ι) → Decidable (Removable run event)
  | .add _ => inferInstanceAs (Decidable True)
  | .remove _ => inferInstanceAs (Decidable (_ → _))

/-- Two jobs below a root, with requests of the given bytes. -/
def twoJobs (first second : List UInt8) (job : Fin 3) : JobRequest where
  implementedRequest := if job = 0 then none else if job = 1 then some first else some second
  requestLength := if job = 0 then 0 else if job = 1 then first.length else second.length
  prefixLength := 0

/-- Jobs that check their bytes and log their executions. -/
def loggingJobs {n : Nat} [NeZero n] (requests : Fin n → JobRequest) :
    JobBehaviour (Fin n) (List (Fin n)) where
  verify job _ bytes :=
    if (requests job).whole.drop (requests job).prefixLength <+: bytes then DiagReturnCode.OK
    else DiagReturnCode.NOT_RESPONSIBLE
  isAllowed _ _ := true
  isAuthenticated _ _ := true
  notAuthenticatedReturnCode _ := DiagReturnCode.ISO_SECURITY_ACCESS_DENIED
  verifySupplierIndication _ _ := DiagReturnCode.OK
  acceptedJob _ state _ := state
  addIdentifier state := state
  maximumResponseLength _ := TransportConfiguration.DIAG_PAYLOAD_SIZE
  suppressPositiveResponse state := state
  process job := if job = 0 then none else some fun state _ => (state ++ [job], DiagReturnCode.OK)
  requestPayloadLength _ := VARIABLE_REQUEST_LENGTH
  responseLength _ := VARIABLE_RESPONSE_LENGTH
  defaultDiagReturnCode _ := DiagReturnCode.ISO_SERVICE_NOT_SUPPORTED
  suppressPositiveResponseBitEnabled _ := false
  serviceId _ := 0x22
  targetAddress _ := 0x10
  isSessionTimeoutActive _ := false
  terminate state := state

theorem loggingJobs_verifying {n : Nat} [NeZero n] (requests : Fin n → JobRequest) :
    Verifying (loggingJobs requests) requests := by
  intro job state bytes
  change (if _ then DiagReturnCode.OK else DiagReturnCode.NOT_RESPONSIBLE) = _ ↔ ¬ _ <+: bytes
  split_ifs with continues
  · exact iff_of_false (by decide) (not_not_intro continues)
  · exact iff_of_true rfl continues

/-- A service with a job below it, and another service. -/
def nestedJobs (job : Fin 4) : JobRequest :=
  if job = 0 then { implementedRequest := none, requestLength := 0, prefixLength := 0 }
  else if job = 1 then { implementedRequest := some [0x22], requestLength := 1, prefixLength := 0 }
  else if job = 2 then
    { implementedRequest := some [0x22, 0xF1], requestLength := 2, prefixLength := 1 }
  else { implementedRequest := some [0x3E], requestLength := 1, prefixLength := 0 }

/-- The service leaves its requests to the job below it. -/
def nestedBehaviour : JobBehaviour (Fin 4) (List (Fin 4)) :=
  { loggingJobs nestedJobs with
    process := fun job => if job = 1 then none else (loggingJobs nestedJobs).process job }

/-- The jobs are added in two orders, and in each of them one is removed and added again. -/
theorem jobTree_exact_sample :
    ∃ run other : JobTreeRun (Fin 4), run.present = [1, 3, 2] ∧ other.present = [1, 2, 3] ∧
      run.tree.firstChild 1 = some 2 ∧ Correct nestedJobs 0 run ∧
      ∃ executed, executed.1.state = [2] ∧
        run.execute nestedJobs 0 nestedBehaviour { state := [], memory := [0x22, 0xF1, 0x90] } 3 =
          some executed ∧
        other.execute nestedJobs 0 nestedBehaviour { state := [], memory := [0x22, 0xF1, 0x90] } 3 =
          some executed := by
  have application : Application nestedJobs 0 :=
    ⟨rfl, fun job => by fin_cases job <;> exact ⟨by decide, by decide, by decide, by decide,
      by decide⟩, by decide⟩
  obtain ⟨run, played, results⟩ := Option.map_eq_some_iff.mp
    (show (System.play (System.performIf (perform nestedJobs 0) Removable) {}
      [.add 2, .add 1, .add 3, .add 2, .remove 2, .add 2]).map (fun run =>
        (run.present, run.tree.firstChild 1, (run.execute nestedJobs 0 nestedBehaviour
          { state := [], memory := [0x22, 0xF1, 0x90] } 3).map fun executed => executed.1.state)) =
      some ([1, 3, 2], some 2, some [2]) by decide)
  obtain ⟨present, results⟩ := Prod.mk.inj results
  obtain ⟨child, states⟩ := Prod.mk.inj results
  obtain ⟨other, otherPlayed, otherPresent⟩ := Option.map_eq_some_iff.mp
    (show (System.play (System.performIf (perform nestedJobs 0) Removable) {}
      [.add 3, .add 1, .add 2, .remove 3, .add 3]).map JobTreeRun.present = some [1, 2, 3] by
        decide)
  have disjoint : Disjoint nestedJobs run.present := by
    rw [present]
    unfold Disjoint
    decide
  have perm : run.present.Perm other.present := by
    rw [present, otherPresent]
    decide
  obtain ⟨correct, dispatch⟩ := jobTree_exact (σ := List (Fin 4)) application
    (System.Reachable.play_performIf id (.initial rfl) played)
  obtain ⟨executed, executes, others⟩ := dispatch nestedBehaviour (loggingJobs_verifying nestedJobs)
    disjoint other (System.Reachable.play_performIf id (.initial rfl) otherPlayed) perm
    { state := [], memory := [0x22, 0xF1, 0x90] } 3
  rw [executes] at states
  exact ⟨run, other, present, otherPresent, child, correct, executed, Option.some.inj states,
    executes, others⟩

/-- The jobs of a run, and what the root does with a request. -/
def outcome (requests : Fin 3 → JobRequest) (memory : List UInt8) (run : JobTreeRun (Fin 3)) :
    List (Fin 3) × Option (List (Fin 3) × UInt8) :=
  (run.present,
    (run.execute requests 0 (loggingJobs requests) { state := [], memory } memory.length).map
      fun executed => (executed.1.state, executed.2))

/-- A request that goes on with the bytes of two jobs is for the first one that was added. -/
theorem not_jobTree_exact :
    ¬ ∀ run other, ((system (twoJobs [0x22] [0x22, 0xF1]) 0).restrict Removable).Reachable run →
      ((system (twoJobs [0x22] [0x22, 0xF1]) 0).restrict Removable).Reachable other →
      run.present.Perm other.present → ∀ behaviour : JobBehaviour (Fin 3) (List (Fin 3)),
        Verifying behaviour (twoJobs [0x22] [0x22, 0xF1]) → ∀ dispatch requestLength,
          run.execute (twoJobs [0x22] [0x22, 0xF1]) 0 behaviour dispatch requestLength =
            other.execute (twoJobs [0x22] [0x22, 0xF1]) 0 behaviour dispatch requestLength := by
  intro exact
  obtain ⟨run, played, first⟩ := Option.map_eq_some_iff.mp
    (show (System.play (System.performIf (perform (twoJobs [0x22] [0x22, 0xF1]) 0) Removable) {}
      [.add 1, .add 2]).map (outcome (twoJobs [0x22] [0x22, 0xF1]) [0x22, 0xF1]) =
      some ([1, 2], some ([1], DiagReturnCode.OK)) by decide)
  obtain ⟨other, otherPlayed, second⟩ := Option.map_eq_some_iff.mp
    (show (System.play (System.performIf (perform (twoJobs [0x22] [0x22, 0xF1]) 0) Removable) {}
      [.add 2, .add 1]).map (outcome (twoJobs [0x22] [0x22, 0xF1]) [0x22, 0xF1]) =
      some ([2, 1], some ([2], DiagReturnCode.OK)) by decide)
  obtain ⟨runPresent, executed⟩ := Prod.mk.inj first
  obtain ⟨otherPresent, otherExecuted⟩ := Prod.mk.inj second
  have perm : run.present.Perm other.present := by
    rw [runPresent, otherPresent]
    exact .swap 2 1 []
  have same := exact run other (System.Reachable.play_performIf id (.initial rfl) played)
    (System.Reachable.play_performIf id (.initial rfl) otherPlayed) perm
    (loggingJobs (twoJobs [0x22] [0x22, 0xF1])) (loggingJobs_verifying _)
    { state := [], memory := [0x22, 0xF1] } 2
  have codes := congrArg (Option.map fun executed => (executed.1.state, executed.2)) same
  have different := executed.symm.trans (codes.trans otherExecuted)
  revert different
  decide

end JobTreeRun

end OpenBsw.Uds
