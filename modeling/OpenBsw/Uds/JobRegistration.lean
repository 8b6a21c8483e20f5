import OpenBsw.Uds.JobTreeShape

/-!
# Adding a job to the tree

The search goes down to the parent of the job, wherever that is in the tree.
The job becomes the last child there, if no identical job is present.
-/

namespace OpenBsw.Uds

open List Function

universe u

open JobTree
open AbstractDiagJob

variable {ι : Type u} {requests : ι → JobRequest} {root : ι} {present : List ι}
  {tree : JobTree ι} {this parent job current : ι}

/-! ## The loop over the children -/

/-- The loop over children that all refuse the job. -/
theorem askChildren_refused {add : JobTree ι → ι → Option (JobTree ι × JobErrorCode)}
    {children : List ι} {start : Option ι} (fuel : Nat)
    (leads : Leads tree.nextJob start children) (enough : children.length < fuel)
    (refused : ∀ kid ∈ children, add tree kid = some (tree, .JOB_NOT_ADDED)) :
    askChildren add fuel tree start = some (tree, .JOB_NOT_ADDED) := by
  induction children generalizing start fuel with
  | nil =>
    obtain ⟨fuel, rfl⟩ : ∃ smaller, fuel = smaller + 1 := ⟨fuel - 1, by omega⟩
    obtain rfl : start = none := leads
    rfl
  | cons kid children ih =>
    rw [length_cons] at enough
    obtain ⟨fuel, rfl⟩ : ∃ smaller, fuel = smaller + 1 := ⟨fuel - 1, by omega⟩
    obtain ⟨rfl, behind⟩ := leads
    rw [askChildren, refused kid mem_cons_self]
    exact ih fuel behind (by omega) fun later member =>
      refused later (mem_cons_of_mem _ member)

/-- The loop ends at the first child that adds the job. -/
theorem askChildren_added {add : JobTree ι → ι → Option (JobTree ι × JobErrorCode)}
    {children : List ι} {start : Option ι} {linked : JobTree ι} (fuel : Nat)
    (leads : Leads tree.nextJob start children) (enough : children.length < fuel)
    (some : ∃ kid ∈ children, add tree kid = some (linked, .JOB_ADDED))
    (others : ∀ kid ∈ children, add tree kid = Option.some (linked, .JOB_ADDED) ∨
      add tree kid = Option.some (tree, .JOB_NOT_ADDED)) :
    askChildren add fuel tree start = Option.some (linked, .JOB_ADDED) := by
  induction children generalizing start fuel with
  | nil =>
    obtain ⟨kid, member, _⟩ := some
    exact absurd member not_mem_nil
  | cons kid children ih =>
    rw [length_cons] at enough
    obtain ⟨fuel, rfl⟩ : ∃ smaller, fuel = smaller + 1 := ⟨fuel - 1, by omega⟩
    obtain ⟨rfl, behind⟩ := leads
    rw [askChildren]
    rcases others kid mem_cons_self with added | refused
    · rw [added]
      rfl
    · rw [refused]
      refine ih fuel behind (by omega) ?_ fun later member =>
        others later (mem_cons_of_mem _ member)
      obtain ⟨adding, member, added⟩ := some
      rcases mem_cons.mp member with rfl | later
      · rw [refused] at added
        injection added with pair
        injection pair with _ code
        cases code
      · exact ⟨adding, later, added⟩

/-- At the jobs where the search is, a child in the sense of the code has its parent. -/
theorem Application.childOf_of_isChild (application : Application requests root)
    (position : this = root ∨ 0 < (requests job).prefixLength)
    (isChild' : isChild (requests job) (requests this).implementedRequest
      (requests this).requestLength = true) : ChildOf requests root this job := by
  refine ⟨position.imp_right fun positive => ?_, isChild'⟩
  have bytes := ((application.formed job).isChild_iff (application.formed this)).mp isChild'
  have length := congrArg List.length bytes
  rw [(application.formed this).length_whole, length_take,
    (application.formed job).length_whole,
    Nat.min_eq_left (application.formed job).inside] at length
  omega

/-- A member of the family that is no child has a prefix. -/
theorem Application.prefix_pos (application : Application requests root)
    (noChild : ¬ isChild (requests job) (requests this).implementedRequest
      (requests this).requestLength = true)
    (family : isFamily (requests job) (requests this).implementedRequest
      (requests this).requestLength = true) : 0 < (requests job).prefixLength := by
  rw [(application.formed job).isChild_iff (application.formed this)] at noChild
  rw [(application.formed job).isFamily_iff (application.formed this)] at family
  refine Nat.pos_of_ne_zero fun zero => noChild ?_
  rw [zero, take_zero] at family ⊢
  exact prefix_nil.mp family

/-! ## Parents -/

/-- A parent of the job is in the tree. -/
def HasParent (requests : ι → JobRequest) (root : ι) (present : List ι) (job : ι) : Prop :=
  ∃ parent ∈ root :: present, ChildOf requests root parent job

/-- There is a parent in the sense of the tree, if there is a job with the bytes of the prefix. -/
theorem Application.hasParent_iff (application : Application requests root) :
    HasParent requests root present job ↔ ∃ parent ∈ root :: present,
      (requests parent).whole = (requests job).whole.take (requests job).prefixLength := by
  constructor
  · rintro ⟨parent, member, child⟩
    exact ⟨parent, member, (application.childOf_iff.mp child).2⟩
  · rintro ⟨parent, member, bytes⟩
    by_cases positive : 0 < (requests parent).requestLength
    · exact ⟨parent, member, application.childOf_iff.mpr ⟨.inr positive, bytes⟩⟩
    · -- a parent without bytes stands for the root
      have empty : (requests parent).whole = [] := by
        rw [← length_eq_zero_iff, (application.formed parent).length_whole]
        omega
      have rootEmpty : (requests root).whole = [] := by
        rw [← length_eq_zero_iff, (application.formed root).length_whole,
          application.requestLength_root]
      exact ⟨root, mem_cons_self, application.childOf_iff.mpr
        ⟨.inl rfl, rootEmpty.trans (empty.symm.trans bytes)⟩⟩

variable [DecidableEq ι]

/-! ## Positions in the tree -/

/-- The second job is the first one or below it. -/
inductive Below (requests : ι → JobRequest) (root : ι) (present : List ι) : ι → ι → Prop where
  | refl (job : ι) : Below requests root present job job
  | child {parent kid job : ι} (isKid : kid ∈ kids requests root present parent)
      (below : Below requests root present kid job) : Below requests root present parent job

/-- A child of a job below is below. -/
theorem Below.tail {top : ι} (below : Below requests root present top parent)
    (isKid : job ∈ kids requests root present parent) : Below requests root present top job := by
  induction below with
  | refl top => exact .child isKid (.refl job)
  | child first _ ih => exact .child first (ih isKid)

/-- What is below a job in the tree is in the tree. -/
theorem Below.mem {top : ι} (below : Below requests root present top job)
    (member : top ∈ root :: present) : job ∈ root :: present := by
  induction below with
  | refl top => exact member
  | child isKid _ ih => exact ih (mem_cons_of_mem _ (mem_kids.mp isKid).1)

/-- Every job in the tree is below the root. -/
theorem Represents.below_root (represents : Represents requests root tree present)
    (application : Application requests root) (member : job ∈ root :: present) :
    Below requests root present root job := by
  induction size : level requests root job using Nat.strong_induction_on generalizing job with
  | _ size ih =>
    rcases mem_cons.mp member with rfl | inTree
    · exact .refl job
    · obtain ⟨parent, parentMember, child⟩ := represents.parent job inTree
      have less := application.level_lt child (represents.ne_root inTree)
      exact (ih _ (size ▸ less) parentMember rfl).tail (mem_kids.mpr ⟨inTree, child⟩)

/-- The whole requests of the jobs above a job are prefixes of its own. -/
theorem Below.startsWith (application : Application requests root)
    (below : Below requests root present parent job) :
    (requests parent).whole <+: (requests job).whole := by
  induction below with
  | refl job => exact prefix_refl _
  | child isKid _ ih =>
    rw [(application.childOf_iff.mp (mem_kids.mp isKid).2).2]
    exact ( take_prefix _ _).trans ih

/-! ## The siblings -/

theorem isIdentical_iff : isIdentical requests current job = true ↔
    current = job ∨ equal (requests current) (requests job) = true := by
  rw [isIdentical, Bool.or_eq_true, beq_iff_eq]

/-- The loop at the last sibling. -/
theorem lastSibling_last (fuel : Nat) (last : tree.nextJob current = none) :
    lastSibling requests tree job (fuel + 1) current =
      some (if isIdentical requests current job = true then none else some current) := by
  rw [lastSibling, last]
  by_cases identical : isIdentical requests current job = true
  · rw [if_pos identical, if_pos identical]
    rfl
  · simp only [if_neg identical, last, Option.getD_none, Option.isSome_none, Bool.false_eq_true,
      if_false]
    rfl

/-- The loop at another sibling. -/
theorem lastSibling_next {second : ι} (fuel : Nat) (positive : 0 < fuel)
    (next : tree.nextJob current = some second) :
    lastSibling requests tree job (fuel + 1) current =
      if isIdentical requests current job = true then some none
      else lastSibling requests tree job fuel second := by
  obtain ⟨fuel, rfl⟩ : ∃ smaller, fuel = smaller + 1 := ⟨fuel - 1, by omega⟩
  rw [lastSibling, next]
  by_cases identical : isIdentical requests current job = true
  · rw [if_pos identical, if_pos identical]
    rfl
  · rw [if_neg identical, if_neg identical, Option.getD_some]
    cases last : tree.nextJob second with
    | none =>
      rw [lastSibling_last fuel last]
      by_cases same : isIdentical requests second job = true
      · simp only [last, Option.isSome_none, Bool.false_eq_true, if_false, if_pos same]
        rfl
      · simp only [last, Option.isSome_none, Bool.false_eq_true, if_false, if_neg same]
        rfl
    | some third =>
      simp only [last, Option.isSome_some, if_true]

/-- The loop stops at an identical sibling. -/
theorem lastSibling_of_identical {rest : List ι} (fuel : Nat)
    (leads : Leads tree.nextJob (some current) (current :: rest)) (enough : rest.length < fuel)
    (identical : ∃ sibling ∈ current :: rest, isIdentical requests sibling job = true) :
    lastSibling requests tree job fuel current = some none := by
  induction rest generalizing current fuel with
  | nil =>
    obtain ⟨fuel, rfl⟩ : ∃ smaller, fuel = smaller + 1 := ⟨fuel - 1, by omega⟩
    obtain ⟨sibling, member, same⟩ := identical
    rw [mem_singleton] at member
    rw [lastSibling_last fuel leads.2, if_pos (member ▸ same)]
  | cons second rest ih =>
    rw [length_cons] at enough
    obtain ⟨fuel, rfl⟩ : ∃ smaller, fuel = smaller + 1 := ⟨fuel - 1, by omega⟩
    rw [lastSibling_next fuel (by omega) leads.2.1]
    by_cases here : isIdentical requests current job = true
    · rw [if_pos here]
    · rw [if_neg here]
      obtain ⟨sibling, member, same⟩ := identical
      rcases mem_cons.mp member with rfl | later
      · exact absurd same here
      · exact ih fuel ⟨rfl, leads.2.2⟩ (by omega) ⟨sibling, later, same⟩

/-- Without an identical sibling the loop ends at the last one. -/
theorem lastSibling_of_different {rest : List ι} (fuel : Nat)
    (leads : Leads tree.nextJob (some current) (current :: rest)) (enough : rest.length < fuel)
    (different : ∀ sibling ∈ current :: rest, isIdentical requests sibling job ≠ true) :
    lastSibling requests tree job fuel current =
      some (some ((current :: rest).getLast (cons_ne_nil _ _))) := by
  have here := different current mem_cons_self
  induction rest generalizing current fuel with
  | nil =>
    obtain ⟨fuel, rfl⟩ : ∃ smaller, fuel = smaller + 1 := ⟨fuel - 1, by omega⟩
    rw [lastSibling_last fuel leads.2, if_neg here]
    rfl
  | cons second rest ih =>
    rw [length_cons] at enough
    obtain ⟨fuel, rfl⟩ : ∃ smaller, fuel = smaller + 1 := ⟨fuel - 1, by omega⟩
    have later : ∀ sibling ∈ second :: rest, isIdentical requests sibling job ≠ true :=
      fun sibling member => different sibling (mem_cons_of_mem _ member)
    rw [lastSibling_next fuel (by omega) leads.2.1, if_neg here,
      getLast_cons (cons_ne_nil second rest)]
    exact ih fuel ⟨rfl, leads.2.2⟩ (by omega) later (later second mem_cons_self)

/-! ## The place of a job -/

/-- An identical job is in the tree. -/
def IsPresent (requests : ι → JobRequest) (root : ι) (present : List ι) (job : ι) : Prop :=
  ∃ other ∈ root :: present, isIdentical requests other job = true

/-- A job identical to a child has the same parent. -/
theorem Application.kid_of_identical (application : Application requests root)
    (child : ChildOf requests root parent job) {other : ι} (member : other ∈ present)
    (identical : isIdentical requests other job = true) :
    other ∈ kids requests root present parent := by
  refine mem_kids.mpr ⟨member, ?_⟩
  rcases isIdentical_iff.mp identical with rfl | same
  · exact child
  · exact (application.childOf_congr same).mpr child

/-- Adding a child that is present already changes nothing. -/
theorem Represents.addChild_of_isPresent (represents : Represents requests root tree present)
    (application : Application requests root) (parentMember : parent ∈ root :: present)
    (child : ChildOf requests root parent job) (isPresent : IsPresent requests root present job)
    (different : job ≠ root) {width : Nat} (enough : present.length < width) :
    addChild requests width tree parent job = some (tree, .JOB_NOT_ADDED) := by
  obtain ⟨other, otherMember, identical⟩ := isPresent
  have otherPresent : other ∈ present := by
    refine (mem_cons.mp otherMember).resolve_left ?_
    rintro rfl
    rcases isIdentical_iff.mp identical with same | same
    · exact different same.symm
    · rw [application.root] at same
      exact Bool.false_ne_true same
  have isKid := application.kid_of_identical child otherPresent identical
  have leads := represents.linked parent parentMember
  have size := length_kids_le requests root present parent
  cases kidsEq : kids requests root present parent with
  | nil =>
    rw [kidsEq] at isKid
    exact absurd isKid not_mem_nil
  | cons first rest =>
    rw [kidsEq] at leads isKid size
    rw [length_cons] at size
    have found := lastSibling_of_identical width ⟨rfl, leads.2⟩ (by omega)
      ⟨other, isKid, identical⟩
    rw [addChild, leads.1]
    simp only [found, Option.bind_eq_bind, Option.bind_some]
    rfl

/-- What adding a child does to the pointers. -/
structure Linked (requests : ι → JobRequest) (root : ι) (present : List ι) (tree : JobTree ι)
    (parent job : ι) (linked : JobTree ι) : Prop where
  /-- The child list of the parent goes on with the job. -/
  parentList : Leads linked.nextJob (linked.firstChild parent)
    (kids requests root present parent ++ [job])
  jobList : linked.firstChild job = none
  firstChild : ∀ other, other ≠ parent → other ≠ job →
    linked.firstChild other = tree.firstChild other
  nextJob : ∀ other, other ∉ kids requests root present parent → other ≠ job →
    linked.nextJob other = tree.nextJob other

/-- A new child is linked behind the others. -/
theorem Represents.addChild_of_not_isPresent (represents : Represents requests root tree present)
    (application : Application requests root) (parentMember : parent ∈ root :: present)
    (new : ¬ IsPresent requests root present job) {width : Nat} (enough : present.length < width) :
    ∃ linked, addChild requests width tree parent job = some (linked, .JOB_ADDED) ∧
      Linked requests root present tree parent job linked := by
  have different : ∀ other ∈ root :: present, isIdentical requests other job ≠ true :=
    fun other member identical => new ⟨other, member, identical⟩
  have notParent : parent ≠ job := fun same =>
    different parent parentMember (isIdentical_iff.mpr (.inl same))
  have leads := represents.linked parent parentMember
  have size := length_kids_le requests root present parent
  have nodup : (kids requests root present parent).Nodup :=
    (nodup_cons.mp represents.nodup).2.filter _
  cases kidsEq : kids requests root present parent with
  | nil =>
    rw [kidsEq] at leads
    have noChild : tree.firstChild parent = none := leads
    rw [addChild, noChild]
    refine ⟨_, rfl, ⟨?_, ?_, fun other notThis notJob => ?_, fun other _ notJob => ?_⟩⟩
    · rw [kidsEq]
      refine ⟨?_, update_self ..⟩
      change update (update tree.firstChild parent (some job)) job none parent =
        some job
      rw [update_of_ne notParent, update_self]
    · exact update_self ..
    · change update (update tree.firstChild parent (some job)) job none other =
        tree.firstChild other
      rw [update_of_ne notJob, update_of_ne notThis]
    · exact update_of_ne notJob ..
  | cons first rest =>
    have kidsMember : ∀ kid ∈ first :: rest, kid ∈ present := fun kid member =>
      (mem_kids.mp (kidsEq ▸ member)).1
    have kidsDifferent : ∀ kid ∈ first :: rest, isIdentical requests kid job ≠ true :=
      fun kid member => different kid (mem_cons_of_mem _ (kidsMember kid member))
    rw [kidsEq] at leads size nodup
    rw [length_cons] at size
    have found := lastSibling_of_different width ⟨rfl, leads.2⟩ (by omega) kidsDifferent
    obtain ⟨front, last, split⟩ : ∃ front last, first :: rest = front ++ [last] :=
      ⟨_, _, (dropLast_append_getLast (cons_ne_nil first rest)).symm⟩
    have lastEq : (first :: rest).getLast (cons_ne_nil _ _) = last := by
      simp only [split, getLast_concat]
    have lastDifferent :=
      kidsDifferent last (split ▸ mem_append_right _ (mem_singleton_self _))
    rw [Ne, isIdentical_iff, not_or] at lastDifferent
    have guard : ¬ (some job = some last ∨
        (some job).any (fun job => equal (requests job) (requests last)) = true) := by
      rintro (same | same)
      · exact lastDifferent.1 (Option.some.inj same).symm
      · exact lastDifferent.2 (application.equal_comm.mp same)
    rw [addChild, leads.1]
    simp only [found, lastEq, Option.bind_eq_bind, Option.bind_some]
    rw [setNextJob, if_neg guard]
    have lastMember : last ∈ kids requests root present parent := by
      rw [kidsEq, split]
      exact mem_append_right _ (mem_singleton_self _)
    rw [split] at leads nodup
    refine ⟨_, rfl, ⟨?_, ?_, fun other notThis notJob => ?_, fun other notKid notJob => ?_⟩⟩
    · rw [kidsEq, split]
      change Leads (update (update tree.nextJob last (some job)) job none)
        (update tree.firstChild job none parent) _
      rw [update_of_ne notParent]
      refine leads.concat nodup fun member => ?_
      rw [← split] at member
      exact kidsDifferent job member (isIdentical_iff.mpr (.inl rfl))
    · exact update_self ..
    · exact update_of_ne notJob ..
    · change update (update tree.nextJob last (some job)) job none other = _
      rw [update_of_ne notJob, update_of_ne]
      rintro rfl
      exact notKid lastMember

/-- The new pointers represent the tree with the job. -/
theorem Represents.add (represents : Represents requests root tree present)
    (application : Application requests root) (parentMember : parent ∈ root :: present)
    (child : ChildOf requests root parent job) (new : ¬ IsPresent requests root present job)
    {linked : JobTree ι} (isLinked : Linked requests root present tree parent job linked) :
    Represents requests root linked (present ++ [job]) := by
  have different : ∀ other ∈ root :: present,
      other ≠ job ∧ equal (requests other) (requests job) ≠ true := by
    intro other member
    rw [← not_or, ← isIdentical_iff]
    exact fun identical => new ⟨other, member, identical⟩
  have notRoot : job ≠ root := Ne.symm (different root mem_cons_self).1
  have notMember : job ∉ present := fun member =>
    (different job (mem_cons_of_mem _ member)).1 rfl
  have level := application.level_lt child notRoot
  -- the job is no parent yet, since a parent of a present job is present
  have noKids : ∀ kid ∈ present ++ [job], ¬ ChildOf requests root job kid := by
    intro kid member kidChild
    rcases mem_append.mp member with inTree | here
    · obtain ⟨other, otherMember, otherChild⟩ := represents.parent kid inTree
      rcases application.parents otherChild kidChild with ⟨same, _, _⟩ | ⟨_, isRoot⟩
      · exact (different other otherMember).2 same
      · exact notRoot isRoot
    · rw [mem_singleton] at here
      subst here
      exact Nat.lt_irrefl _ (application.level_lt kidChild notRoot)
  refine ⟨?_, fun other member => ?_, fun kid member => ?_, fun first firstMember second
    secondMember => ?_, ?_⟩
  · rw [← cons_append, nodup_append]
    refine ⟨represents.nodup, nodup_singleton job, fun first firstMember second here => ?_⟩
    rw [mem_singleton] at here
    exact here ▸ (different first firstMember).1
  · rw [kids_append_singleton]
    by_cases isJob : other = job
    · subst isJob
      have empty : kids requests root present other = [] :=
        filter_eq_nil_iff.mpr fun kid inTree => by
          rw [decide_eq_true_iff]
          exact noKids kid (mem_append_left _ inTree)
      rw [empty, if_neg (noKids other (mem_append_right _ (mem_singleton_self _)))]
      exact isLinked.jobList
    have otherMember : other ∈ root :: present := by
      rw [← cons_append] at member
      rcases mem_append.mp member with inTree | here
      · exact inTree
      · exact absurd (mem_singleton.mp here) isJob
    by_cases isParent : other = parent
    · subst isParent
      rw [if_pos child]
      exact isLinked.parentList
    · have notChild : ¬ ChildOf requests root other job := fun otherChild =>
        isParent (represents.parent_unique application otherMember parentMember otherChild child)
      rw [if_neg notChild, append_nil, isLinked.firstChild other isParent isJob]
      refine (represents.linked other otherMember).congr fun kid member => ?_
      obtain ⟨inTree, kidChild⟩ := mem_kids.mp member
      refine isLinked.nextJob kid (fun other' => ?_) ?_
      · exact isParent (represents.parent_unique application otherMember parentMember kidChild
          (mem_kids.mp other').2)
      · rintro rfl
        exact notMember inTree
  · rcases mem_append.mp member with inTree | here
    · obtain ⟨other, otherMember, otherChild⟩ := represents.parent kid inTree
      refine ⟨other, ?_, otherChild⟩
      rw [← cons_append]
      exact mem_append_left _ otherMember
    · rw [mem_singleton] at here
      subst here
      refine ⟨parent, ?_, child⟩
      rw [← cons_append]
      exact mem_append_left _ parentMember
  · intro unequal
    rw [Bool.eq_false_iff]
    rcases mem_append.mp firstMember with firstInTree | firstHere
    · rcases mem_append.mp secondMember with secondInTree | secondHere
      · rw [represents.unequal first firstInTree second secondInTree unequal]
        exact Bool.false_ne_true
      · rw [mem_singleton] at secondHere
        exact secondHere ▸ (different first (mem_cons_of_mem _ firstInTree)).2
    · rw [mem_singleton] at firstHere
      subst firstHere
      rcases mem_append.mp secondMember with secondInTree | secondHere
      · rw [Ne, application.equal_comm]
        exact (different second (mem_cons_of_mem _ secondInTree)).2
      · exact absurd (mem_singleton.mp secondHere).symm unequal
  · rw [isLinked.nextJob root (fun member => ?_) (Ne.symm notRoot)]
    · exact represents.rootNext
    · exact represents.ne_root (mem_kids.mp member).1 rfl

/-! ## The search -/

/-- The levels below a job that a search may go down. -/
def depthBelow (requests : ι → JobRequest) (root : ι) (this : ι) : Nat :=
  257 - level requests root this

theorem Application.depthBelow_lt (application : Application requests root) {kid : ι}
    (child : ChildOf requests root this kid) (notRoot : kid ≠ root) :
    depthBelow requests root kid < depthBelow requests root this := by
  have bound := application.level_le kid
  have less := application.level_lt child notRoot
  rw [depthBelow, depthBelow]
  omega

/-- Where the parent of a job is not below, or holds an identical job, nothing is added. -/
theorem Represents.add_refused (represents : Represents requests root tree present)
    (application : Application requests root) (width depth : Nat) (wide : present.length < width)
    (deep : depthBelow requests root this ≤ depth) (member : this ∈ root :: present)
    (position : this = root ∨ 0 < (requests job).prefixLength)
    (blocked : ∀ parent, Below requests root present this parent →
      ChildOf requests root parent job → IsPresent requests root present job) :
    addAbstractDiagJob requests width depth tree this job = some (tree, .JOB_NOT_ADDED) := by
  induction depth generalizing this with
  | zero =>
    have bound := application.level_le this
    rw [depthBelow] at deep
    omega
  | succ depth ih =>
    rw [addAbstractDiagJob]
    by_cases same : job = this
    · rw [if_pos same]
      rfl
    rw [if_neg same]
    by_cases identical : equal (requests job) (requests this) = true ∨
        some job = tree.firstChild this
    · rw [if_pos identical]
      rfl
    rw [if_neg identical]
    by_cases child : isChild (requests job) (requests this).implementedRequest
        (requests this).requestLength = true
    · rw [if_pos child]
      have childOf := application.childOf_of_isChild position child
      by_cases isRoot : job = root
      · -- the root is no child of itself here, since it would be the same job
        subst isRoot
        have prefixLength : (requests job).prefixLength = 0 := by rw [application.root]
        rcases position with here | positive
        · exact absurd here.symm same
        · omega
      · exact represents.addChild_of_isPresent application member childOf
          (blocked this (.refl this) childOf) isRoot wide
    rw [if_neg child]
    by_cases family : isFamily (requests job) (requests this).implementedRequest
        (requests this).requestLength = true
    · rw [if_pos family]
      refine askChildren_refused width (represents.linked this member)
        (Nat.lt_of_le_of_lt (length_kids_le requests root present this) wide) fun kid isKid => ?_
      obtain ⟨inTree, kidChild⟩ := mem_kids.mp isKid
      have less := application.depthBelow_lt kidChild (represents.ne_root inTree)
      exact ih (by omega) (mem_cons_of_mem _ inTree)
        (.inr (application.prefix_pos child family)) fun parent below =>
          blocked parent (.child isKid below)
    · rw [if_neg family]
      rfl

/-- The search finds the parent and adds the job there. -/
theorem Represents.add_found (represents : Represents requests root tree present)
    (application : Application requests root) (width depth : Nat) (wide : present.length < width)
    (deep : depthBelow requests root this ≤ depth) (member : this ∈ root :: present)
    (below : Below requests root present this parent) (parentMember : parent ∈ root :: present)
    (child : ChildOf requests root parent job) (new : ¬ IsPresent requests root present job)
    {linked : JobTree ι}
    (added : addChild requests width tree parent job = some (linked, .JOB_ADDED)) :
    addAbstractDiagJob requests width depth tree this job = some (linked, .JOB_ADDED) := by
  have different : ∀ other ∈ root :: present,
      other ≠ job ∧ equal (requests other) (requests job) ≠ true := by
    intro other otherMember
    rw [← not_or, ← isIdentical_iff]
    exact fun identical => new ⟨other, otherMember, identical⟩
  induction depth generalizing this with
  | zero =>
    have bound := application.level_le this
    rw [depthBelow] at deep
    omega
  | succ depth ih =>
    have notIdentical : ¬ (equal (requests job) (requests this) = true ∨
        some job = tree.firstChild this) := by
      rintro (same | first)
      · exact (different this member).2 (application.equal_comm.mp same)
      · have start := (represents.linked this member).start_eq
        rw [← first] at start
        have isKid : job ∈ kids requests root present this := mem_of_mem_head? start.symm
        exact (different job (mem_cons_of_mem _ (mem_kids.mp isKid).1)).1 rfl
    rw [addAbstractDiagJob, if_neg (Ne.symm (different this member).1), if_neg notIdentical]
    by_cases here : this = parent
    · subst here
      rw [if_pos child.2]
      exact added
    cases below with
    | refl => exact absurd rfl here
    | @child _ kid _ isKid below =>
      obtain ⟨inTree, kidChild⟩ := mem_kids.mp isKid
      have noChild : ¬ isChild (requests job) (requests this).implementedRequest
          (requests this).requestLength = true := fun isChild' =>
        here (represents.parent_unique application member parentMember
          ⟨kidChild.1, isChild'⟩ child)
      have family : isFamily (requests job) (requests this).implementedRequest
          (requests this).requestLength = true := by
        rw [(application.formed job).isFamily_iff (application.formed this),
          ← (application.childOf_iff.mp child).2]
        exact (Below.child isKid below).startsWith application
      have position := application.prefix_pos noChild family
      have deeper : ∀ other ∈ kids requests root present this,
          depthBelow requests root other ≤ depth := by
        intro other otherKid
        obtain ⟨otherInTree, otherChild⟩ := mem_kids.mp otherKid
        have less := application.depthBelow_lt otherChild (represents.ne_root otherInTree)
        omega
      rw [if_neg noChild, if_pos family]
      refine askChildren_added width (represents.linked this member)
        (Nat.lt_of_le_of_lt (length_kids_le requests root present this) wide)
        ⟨kid, isKid, ih (deeper kid isKid) (mem_cons_of_mem _ inTree) below⟩
        fun other otherKid => ?_
      have otherMember := mem_cons_of_mem root (mem_kids.mp otherKid).1
      by_cases otherBelow : Below requests root present other parent
      · exact .inl (ih (deeper other otherKid) otherMember otherBelow)
      · refine .inr (represents.add_refused application width depth wide (deeper other otherKid)
          otherMember (.inr position) fun place placeBelow placeChild => ?_)
        have same := represents.parent_unique application (placeBelow.mem otherMember)
          parentMember placeChild child
        exact absurd (same ▸ placeBelow) otherBelow

/-! ## Adding to the root -/

/-- A job is added to the tree, or nothing changes since an identical job is present or a parent
is missing. -/
theorem Represents.add_spec (represents : Represents requests root tree present)
    (application : Application requests root) (job : ι) {width depth : Nat}
    (wide : present.length < width) (deep : 257 ≤ depth) :
    (¬ IsPresent requests root present job ∧ HasParent requests root present job ∧
      ∃ linked, addAbstractDiagJob requests width depth tree root job = some (linked, .JOB_ADDED) ∧
        Represents requests root linked (present ++ [job])) ∨
    ((IsPresent requests root present job ∨ ¬ HasParent requests root present job) ∧
      addAbstractDiagJob requests width depth tree root job = some (tree, .JOB_NOT_ADDED)) := by
  have deepRoot : depthBelow requests root root ≤ depth := Nat.le_trans (Nat.sub_le ..) deep
  by_cases isPresent : IsPresent requests root present job
  · exact .inr ⟨.inl isPresent, represents.add_refused application width depth wide deepRoot
      mem_cons_self (.inl rfl) fun _ _ _ => isPresent⟩
  by_cases hasParent : HasParent requests root present job
  · obtain ⟨parent, parentMember, child⟩ := hasParent
    obtain ⟨linked, added, isLinked⟩ :=
      represents.addChild_of_not_isPresent application parentMember isPresent wide
    refine .inl ⟨isPresent, ⟨parent, parentMember, child⟩, linked, ?_,
      represents.add application parentMember child isPresent isLinked⟩
    exact represents.add_found application width depth wide deepRoot mem_cons_self
      (represents.below_root application parentMember) parentMember child isPresent added
  · exact .inr ⟨.inr hasParent, represents.add_refused application width depth wide deepRoot
      mem_cons_self (.inl rfl) fun parent below child =>
        absurd ⟨parent, below.mem mem_cons_self, child⟩ hasParent⟩

end OpenBsw.Uds
