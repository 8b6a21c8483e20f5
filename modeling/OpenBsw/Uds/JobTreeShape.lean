import OpenBsw.Uds.AbstractDiagJob

/-!
# The shape of the job tree

The tree is determined by the list of the jobs in it, in the order in which
they were added: the children of a job are those whose prefix is its whole
request, in this order.  The pointers represent such a list.
-/

namespace OpenBsw.Uds

open List

universe u

open JobTree
open AbstractDiagJob

/-! ## Requests -/

/-- What the parameters of the constructor mean: the sizes of an array and of a part of it. -/
structure JobRequest.WellFormed (job : JobRequest) : Prop where
  size : ∀ bytes ∈ job.implementedRequest, job.requestLength ≤ bytes.length
  null : job.implementedRequest = none → job.requestLength = 0
  inside : job.prefixLength ≤ job.requestLength
  /-- The assertion of the constructor. -/
  proper : 0 < job.requestLength → job.prefixLength < job.requestLength
  byte : job.requestLength < 256

/-- The whole implemented request. -/
def JobRequest.whole (job : JobRequest) : List UInt8 :=
  (job.implementedRequest.getD []).take job.requestLength

namespace JobRequest

variable {job parent x y : JobRequest}

theorem WellFormed.length_whole (formed : job.WellFormed) :
    job.whole.length = job.requestLength := by
  rw [whole, length_take]
  cases request : job.implementedRequest with
  | none => simp [formed.null request]
  | some bytes => exact Nat.min_eq_left (formed.size bytes request)

/-- Requests are compared by their bytes. -/
theorem WellFormed.compare_iff (xFormed : x.WellFormed) (yFormed : y.WellFormed) {length : Nat}
    (xLong : length ≤ x.requestLength) (yLong : length ≤ y.requestLength) :
    AbstractDiagJob.compare x.implementedRequest y.implementedRequest length = true ↔
      x.whole.take length = y.whole.take length := by
  by_cases empty : length = 0
  · rw [empty]
    exact iff_of_true rfl rfl
  rw [whole, whole, take_take, take_take, Nat.min_eq_left xLong, Nat.min_eq_left yLong]
  cases xRequest : x.implementedRequest with
  | none =>
    have nothing := xFormed.null xRequest
    omega
  | some xBytes =>
    cases yRequest : y.implementedRequest with
    | none =>
      have nothing := yFormed.null yRequest
      omega
    | some yBytes =>
      change (if length = 0 then true else xBytes.take length == yBytes.take length) = true ↔ _
      rw [if_neg empty, beq_iff_eq]
      rfl

/-- A child continues the whole request of its parent. -/
theorem WellFormed.isChild_iff (formed : job.WellFormed) (parentFormed : parent.WellFormed) :
    isChild job parent.implementedRequest parent.requestLength = true ↔
      parent.whole = job.whole.take job.prefixLength := by
  have inside := formed.inside
  rw [isChild]
  by_cases size : parent.requestLength = job.prefixLength
  · rw [if_pos size, parentFormed.compare_iff formed (Nat.le_refl _) (size ▸ inside), size,
      take_of_length_le (Nat.le_of_eq (parentFormed.length_whole.trans size))]
  · rw [if_neg size]
    refine iff_of_false Bool.false_ne_true fun same => size ?_
    rw [← parentFormed.length_whole, same, length_take, formed.length_whole]
    exact Nat.min_eq_left inside

/-- A member of the family continues the whole request with its prefix. -/
theorem WellFormed.isFamily_iff (formed : job.WellFormed) (parentFormed : parent.WellFormed) :
    isFamily job parent.implementedRequest parent.requestLength = true ↔
      parent.whole <+: job.whole.take job.prefixLength := by
  have inside := formed.inside
  have prefixSize : (job.whole.take job.prefixLength).length = job.prefixLength := by
    rw [length_take, formed.length_whole]
    exact Nat.min_eq_left inside
  rw [isFamily]
  by_cases size : parent.requestLength ≤ job.prefixLength
  · rw [if_pos size, parentFormed.compare_iff formed (Nat.le_refl _) (Nat.le_trans size inside),
      take_of_length_le (Nat.le_of_eq parentFormed.length_whole), prefix_iff_eq_take,
      parentFormed.length_whole, take_take, Nat.min_eq_left size]
  · rw [if_neg size]
    refine iff_of_false Bool.false_ne_true fun isPrefix => size ?_
    rw [← parentFormed.length_whole, ← prefixSize]
    exact isPrefix.length_le

/-- Equal jobs implement the same request with the same prefix. -/
theorem WellFormed.equal_iff (xFormed : x.WellFormed) (yFormed : y.WellFormed) :
    equal x y = true ↔ (x.implementedRequest ≠ none ∧ y.implementedRequest ≠ none) ∧
      x.whole = y.whole ∧ x.prefixLength = y.prefixLength := by
  have xLength := xFormed.length_whole
  have yLength := yFormed.length_whole
  rw [equal, Bool.and_eq_true, Bool.and_eq_true, Bool.and_eq_true, Bool.and_eq_true,
    Option.isSome_iff_ne_none, Option.isSome_iff_ne_none, beq_iff_eq, beq_iff_eq]
  constructor
  · rintro ⟨⟨⟨some, length⟩, prefixLength⟩, bytes⟩
    rw [xFormed.compare_iff yFormed (Nat.le_refl _) (Nat.le_of_eq length),
      take_of_length_le (Nat.le_of_eq xLength),
      take_of_length_le (Nat.le_of_eq (yLength.trans length.symm))] at bytes
    exact ⟨some, bytes, prefixLength⟩
  · rintro ⟨some, bytes, prefixLength⟩
    have length : x.requestLength = y.requestLength := by rw [← xLength, ← yLength, bytes]
    refine ⟨⟨⟨some, length⟩, prefixLength⟩, ?_⟩
    rw [xFormed.compare_iff yFormed (Nat.le_refl _) (Nat.le_of_eq length), bytes]

end JobRequest

/-! ## Jobs of an application -/

section

variable {ι : Type u} (requests : ι → JobRequest) (root : ι)

/-- The jobs of an application: the root has no request, and no two jobs have the same whole
request with different prefixes. -/
structure Application : Prop where
  root : requests root = { implementedRequest := none, requestLength := 0, prefixLength := 0 }
  formed : ∀ job, (requests job).WellFormed
  unambiguous : ∀ first second, (requests first).whole = (requests second).whole →
    (requests first).prefixLength = (requests second).prefixLength

/-- The parent's whole request is the prefix of the job.  Besides the root, a job without a
request has no children. -/
def ChildOf (parent job : ι) : Prop :=
  (parent = root ∨ 0 < (requests parent).requestLength) ∧
    isChild (requests job) (requests parent).implementedRequest
      (requests parent).requestLength = true

namespace Application

variable {requests root} {parent job first second : ι}

theorem childOf_iff (application : Application requests root) :
    ChildOf requests root parent job ↔
      (parent = root ∨ 0 < (requests parent).requestLength) ∧
        (requests parent).whole = (requests job).whole.take (requests job).prefixLength := by
  rw [ChildOf, (application.formed job).isChild_iff (application.formed parent)]

theorem requestLength_root (application : Application requests root) :
    (requests root).requestLength = 0 := by
  rw [application.root]

theorem requestLength_eq (application : Application requests root)
    (same : (requests first).whole = (requests second).whole) :
    (requests first).requestLength = (requests second).requestLength := by
  rw [← (application.formed first).length_whole, ← (application.formed second).length_whole, same]

theorem equal_comm (application : Application requests root) :
    equal (requests first) (requests second) = true ↔
      equal (requests second) (requests first) = true := by
  rw [(application.formed first).equal_iff (application.formed second),
    (application.formed second).equal_iff (application.formed first), and_comm (a := _ ≠ _),
    eq_comm (a := (requests first).whole), eq_comm (a := (requests first).prefixLength)]

/-- Jobs with the same whole request are equal, if they have one. -/
theorem equal_of_whole_eq (application : Application requests root)
    (same : (requests first).whole = (requests second).whole)
    (positive : 0 < (requests first).requestLength) :
    equal (requests first) (requests second) = true := by
  have length := application.requestLength_eq same
  rw [(application.formed first).equal_iff (application.formed second)]
  refine ⟨⟨fun null => ?_, fun null => ?_⟩, same, application.unambiguous first second same⟩
  · exact absurd ((application.formed first).null null) (Nat.ne_of_gt positive)
  · exact absurd ((application.formed second).null null) (Nat.ne_of_gt (length ▸ positive))

/-- Equal jobs have the same parents. -/
theorem childOf_congr (application : Application requests root)
    (same : equal (requests first) (requests second) = true) :
    ChildOf requests root parent first ↔ ChildOf requests root parent second := by
  rw [(application.formed first).equal_iff (application.formed second)] at same
  rw [application.childOf_iff, application.childOf_iff, same.2.1, same.2.2]

/-- The prefix of a child is the whole request of its parent. -/
theorem requestLength_parent (application : Application requests root)
    (child : ChildOf requests root parent job) :
    (requests parent).requestLength = (requests job).prefixLength := by
  have formed := application.formed job
  have length := congrArg List.length (application.childOf_iff.mp child).2
  rw [(application.formed parent).length_whole, length_take, formed.length_whole,
    Nat.min_eq_left formed.inside] at length
  exact length

/-- The parents of a job with requests of their own are equal, and the root is the only one
without. -/
theorem parents (application : Application requests root)
    (firstChild : ChildOf requests root first job)
    (secondChild : ChildOf requests root second job) :
    equal (requests first) (requests second) = true ∧ first ≠ root ∧ second ≠ root ∨
      first = root ∧ second = root := by
  obtain ⟨firstParent, firstBytes⟩ := application.childOf_iff.mp firstChild
  obtain ⟨secondParent, secondBytes⟩ := application.childOf_iff.mp secondChild
  have same := firstBytes.trans secondBytes.symm
  have length := application.requestLength_eq same
  have rootLength := application.requestLength_root
  by_cases positive : 0 < (requests first).requestLength
  · refine .inl ⟨application.equal_of_whole_eq same positive, ?_, ?_⟩
    · rintro rfl
      omega
    · rintro rfl
      omega
  · exact .inr ⟨firstParent.resolve_right positive, secondParent.resolve_right (length ▸ positive)⟩

end Application

end

/-! ## Trees of present jobs -/

section

variable {ι : Type u} [DecidableEq ι] (requests : ι → JobRequest) (root : ι)

instance (parent job : ι) : Decidable (ChildOf requests root parent job) :=
  inferInstanceAs (Decidable (_ ∧ _))

/-- The children of a job, in the order of their registration. -/
def kids (present : List ι) (parent : ι) : List ι :=
  present.filter fun job => decide (ChildOf requests root parent job)

/-- The pointers represent the tree of the present jobs. -/
structure Represents (tree : JobTree ι) (present : List ι) : Prop where
  nodup : (root :: present).Nodup
  linked : ∀ parent ∈ root :: present,
    Leads tree.nextJob (tree.firstChild parent) (kids requests root present parent)
  parent : ∀ job ∈ present, ∃ parent ∈ root :: present, ChildOf requests root parent job
  unequal : ∀ first ∈ present, ∀ second ∈ present, first ≠ second →
    equal (requests first) (requests second) = false
  rootNext : tree.nextJob root = none

/-- How far down in the tree a job can be. -/
def level (job : ι) : Nat :=
  if job = root then 0 else (requests job).requestLength + 1

variable {requests root} {present : List ι} {tree : JobTree ι} {parent job first second : ι}

theorem mem_kids : job ∈ kids requests root present parent ↔
    job ∈ present ∧ ChildOf requests root parent job := by
  rw [kids, mem_filter, decide_eq_true_iff]

theorem kids_append_singleton (present : List ι) (parent job : ι) :
    kids requests root (present ++ [job]) parent = kids requests root present parent ++
      if ChildOf requests root parent job then [job] else [] := by
  rw [kids, filter_append, kids]
  congr 1
  by_cases child : ChildOf requests root parent job
  · rw [if_pos child, filter_cons, if_pos (decide_eq_true child), filter_nil]
  · rw [if_neg child, filter_cons, if_neg (by rw [decide_eq_true_iff]; exact child),
      filter_nil]

theorem length_kids_le (requests : ι → JobRequest) (root : ι) (present : List ι) (parent : ι) :
    (kids requests root present parent).length ≤ present.length :=
  length_filter_le ..

theorem Application.level_le (application : Application requests root) (job : ι) :
    level requests root job ≤ 256 := by
  have byte := (application.formed job).byte
  rw [level]
  split_ifs <;> omega

/-- Children are further down. -/
theorem Application.level_lt (application : Application requests root)
    (child : ChildOf requests root parent job) (notRoot : job ≠ root) :
    level requests root parent < level requests root job := by
  rw [level, level, if_neg notRoot]
  by_cases isRoot : parent = root
  · rw [if_pos isRoot]
    exact Nat.succ_pos _
  · have positive := child.1.resolve_left isRoot
    have length := application.requestLength_parent child
    have inside := (application.formed job).inside
    have proper := (application.formed job).proper (by omega)
    rw [if_neg isRoot]
    omega

/-- A job in the tree is not the root. -/
theorem Represents.ne_root (represents : Represents requests root tree present)
    (member : job ∈ present) : job ≠ root := by
  rintro rfl
  exact (nodup_cons.mp represents.nodup).1 member

/-- A job has one parent in the tree. -/
theorem Represents.parent_unique (represents : Represents requests root tree present)
    (application : Application requests root) (firstMember : first ∈ root :: present)
    (secondMember : second ∈ root :: present) (firstChild : ChildOf requests root first job)
    (secondChild : ChildOf requests root second job) : first = second := by
  rcases application.parents firstChild secondChild with
    ⟨same, firstRoot, secondRoot⟩ | ⟨firstRoot, secondRoot⟩
  · by_contra different
    have unequal := represents.unequal first ((mem_cons.mp firstMember).resolve_left firstRoot)
      second ((mem_cons.mp secondMember).resolve_left secondRoot) different
    rw [same] at unequal
    exact Bool.false_ne_true unequal.symm
  · exact firstRoot.trans secondRoot.symm

end

end OpenBsw.Uds
