import OpenBsw.Uds.JobRegistration

/-!
# Removing a job from the tree

The search passes all jobs of the tree, the children of a job before its next
sibling.  It unlinks a job without children from its parent or from the sibling
in front of it, and goes on without a further effect.
-/

namespace OpenBsw.Uds

open List Function

universe u

open JobTree
open AbstractDiagJob

variable {ι : Type u} [DecidableEq ι] {requests : ι → JobRequest} {root : ι} {present : List ι}
  {tree : JobTree ι} {this parent job kid : ι}

/-! ## Unlinking -/

/-- The job is taken out of the child list of its parent. -/
def IsUnlinked (requests : ι → JobRequest) (root : ι) (present : List ι) (tree : JobTree ι)
    (job : ι) (unlinked : JobTree ι) : Prop :=
  ∃ parent ∈ root :: present,
    (∃ rest, kids requests root present parent = job :: rest ∧
      unlinked = { tree with
        firstChild := update tree.firstChild parent (tree.nextJob job) }) ∨
    (∃ front before rest, kids requests root present parent = front ++ before :: job :: rest ∧
      unlinked = { tree with nextJob := update tree.nextJob before (tree.nextJob job) })

theorem kids_erase (nodup : present.Nodup) (parent job : ι) :
    kids requests root (present.erase job) parent =
      (kids requests root present parent).erase job := by
  rw [kids, kids, (nodup.filter _).erase_eq_filter, nodup.erase_eq_filter, filter_comm]

/-- The pointers represent the tree without the job. -/
theorem IsUnlinked.represents {unlinked : JobTree ι}
    (isUnlinked : IsUnlinked requests root present tree job unlinked)
    (represents : Represents requests root tree present) (application : Application requests root)
    (noKids : kids requests root present job = []) :
    Represents requests root unlinked (present.erase job) := by
  have nodup := (nodup_cons.mp represents.nodup).2
  obtain ⟨parent, parentMember, cases⟩ := isUnlinked
  have isKid : job ∈ kids requests root present parent := by
    rcases cases with ⟨rest, kidsEq, _⟩ | ⟨front, before, rest, kidsEq, _⟩
    · rw [kidsEq]
      exact mem_cons_self
    · rw [kidsEq]
      exact mem_append_right _ (mem_cons_of_mem _ mem_cons_self)
  obtain ⟨inTree, child⟩ := mem_kids.mp isKid
  have notRoot := represents.ne_root inTree
  have kidsNodup : (kids requests root present parent).Nodup := nodup.filter _
  have leads := represents.linked parent parentMember
  have back : ∀ other ∈ root :: present.erase job, other ∈ root :: present := by
    intro other member
    rcases mem_cons.mp member with rfl | later
    · exact mem_cons_self
    · exact mem_cons_of_mem _ (mem_of_mem_erase later)
  -- the lists of the other jobs do not pass the elements of this one
  have others : ∀ other ∈ root :: present, other ≠ parent →
      (kids requests root present other).erase job = kids requests root present other ∧
        ∀ kid ∈ kids requests root present other, kid ∉ kids requests root present parent := by
    intro other otherMember different
    have apart : ∀ kid ∈ kids requests root present other,
        kid ∉ kids requests root present parent := fun kid member inParent =>
      different (represents.parent_unique application otherMember parentMember
        (mem_kids.mp member).2 (mem_kids.mp inParent).2)
    exact ⟨erase_of_not_mem fun member => apart job member isKid, apart⟩
  have keptParent : ∀ kid ∈ present.erase job, ∃ other ∈ root :: present.erase job,
      ChildOf requests root other kid := by
    intro kid member
    obtain ⟨other, otherMember, otherChild⟩ := represents.parent kid (mem_of_mem_erase member)
    refine ⟨other, ?_, otherChild⟩
    rcases mem_cons.mp otherMember with rfl | later
    · exact mem_cons_self
    · refine mem_cons_of_mem _ ((mem_erase_of_ne ?_).mpr later)
      rintro rfl
      have kidOfJob := mem_kids.mpr ⟨mem_of_mem_erase member, otherChild⟩
      rw [noKids] at kidOfJob
      exact not_mem_nil kidOfJob
  have keptNodup : (root :: present.erase job).Nodup :=
    nodup_cons.mpr ⟨fun member =>
      (nodup_cons.mp represents.nodup).1 (mem_of_mem_erase member), nodup.erase job⟩
  have keptUnequal : ∀ first ∈ present.erase job, ∀ second ∈ present.erase job, first ≠ second →
      equal (requests first) (requests second) = false :=
    fun first firstMember second secondMember =>
      represents.unequal first (mem_of_mem_erase firstMember) second
        (mem_of_mem_erase secondMember)
  rcases cases with ⟨rest, kidsEq, rfl⟩ | ⟨front, before, rest, kidsEq, rfl⟩
  · refine ⟨keptNodup, fun other member => ?_, keptParent, keptUnequal, represents.rootNext⟩
    rw [kids_erase nodup]
    by_cases isParent : other = parent
    · subst isParent
      rw [kidsEq] at leads kidsNodup ⊢
      rw [erase_cons_head]
      change Leads tree.nextJob
        (update tree.firstChild other (tree.nextJob job) other) rest
      rw [update_self]
      exact leads.2
    · rw [(others other (back other member) isParent).1]
      change Leads tree.nextJob (update tree.firstChild parent (tree.nextJob job) other) _
      rw [update_of_ne isParent]
      exact represents.linked other (back other member)
  · have beforeKid : before ∈ kids requests root present parent := by
      rw [kidsEq]
      exact mem_append_right _ mem_cons_self
    refine ⟨keptNodup, fun other member => ?_, keptParent, keptUnequal, ?_⟩
    · rw [kids_erase nodup]
      by_cases isParent : other = parent
      · subst isParent
        rw [kidsEq] at leads kidsNodup ⊢
        have split : (front ++ before :: job :: rest).erase job = front ++ before :: rest := by
          rw [append_cons front before (job :: rest), append_cons front before rest,
            erase_append_right, erase_cons_head]
          intro member
          rw [append_cons front before (job :: rest), nodup_append] at kidsNodup
          exact kidsNodup.2.2 job member job mem_cons_self rfl
        rw [split]
        exact leads.unlink kidsNodup
      · rw [(others other (back other member) isParent).1]
        refine (represents.linked other (back other member)).update (fun inOther => ?_) _
        exact (others other (back other member) isParent).2 before inOther beforeKid
    · change update tree.nextJob before (tree.nextJob job) root = none
      rw [update_of_ne (Ne.symm (represents.ne_root (mem_kids.mp beforeKid).1))]
      exact represents.rootNext

/-! ## The search -/

/-- How deeply the search is nested from a child of the parent on, with `count` siblings left. -/
def searchFuel (requests : ι → JobRequest) (root : ι) (present : List ι) (parent : ι)
    (count : Nat) : Nat :=
  depthBelow requests root parent * (present.length + 2) + count

/-- The search below a child takes less. -/
theorem Application.searchFuel_kid (application : Application requests root) (present : List ι)
    (child : ChildOf requests root parent this) (notRoot : this ≠ root) (count : Nat) :
    searchFuel requests root present this (kids requests root present this).length <
      searchFuel requests root present parent count := by
  have less := application.depthBelow_lt child notRoot
  have size := length_kids_le requests root present this
  have whole := Nat.mul_le_mul_right (present.length + 2) (Nat.succ_le_of_lt less)
  rw [Nat.succ_mul] at whole
  rw [searchFuel, searchFuel]
  omega

/-- Below a job there is the job itself, or it is below a child. -/
theorem Below.exists_kid {top : ι} (below : Below requests root present top job)
    (different : job ≠ top) :
    ∃ kid ∈ kids requests root present top, Below requests root present kid job := by
  cases below with
  | refl => exact absurd rfl different
  | @child _ kid _ isKid below => exact ⟨kid, isKid, below⟩

/-- What is below is further down. -/
theorem Represents.level_le (represents : Represents requests root tree present)
    (application : Application requests root) (below : Below requests root present parent job) :
    level requests root parent ≤ level requests root job := by
  induction below with
  | refl job => exact Nat.le_refl _
  | child isKid _ ih =>
    obtain ⟨inTree, child⟩ := mem_kids.mp isKid
    exact Nat.le_trans (Nat.le_of_lt (application.level_lt child (represents.ne_root inTree))) ih

/-- What is below a job, but not the job itself, has its parent there. -/
theorem Below.exists_parent {top : ι} (below : Below requests root present top job)
    (different : job ≠ top) :
    ∃ place, Below requests root present top place ∧ job ∈ kids requests root present place := by
  induction below with
  | refl => exact absurd rfl different
  | @child top kid job isKid below ih =>
    by_cases same : job = kid
    · exact ⟨top, .refl top, same ▸ isKid⟩
    · obtain ⟨place, placeBelow, placeKid⟩ := ih same
      exact ⟨place, .child isKid placeBelow, placeKid⟩

/-- A job below a child of `this` is no sibling of `this`. -/
theorem Represents.not_sibling (represents : Represents requests root tree present)
    (application : Application requests root) (parentMember : parent ∈ root :: present)
    (isThis : this ∈ kids requests root present parent)
    (isKid : kid ∈ kids requests root present this)
    (below : Below requests root present kid job) : job ∉ kids requests root present parent := by
  intro sibling
  obtain ⟨inTree, child⟩ := mem_kids.mp isThis
  obtain ⟨kidInTree, kidChild⟩ := mem_kids.mp isKid
  have levelThis := application.level_lt child (represents.ne_root inTree)
  have levelKid := application.level_lt kidChild (represents.ne_root kidInTree)
  have levelJob := represents.level_le application below
  have different : job ≠ this := by
    rintro rfl
    omega
  obtain ⟨place, placeBelow, placeKid⟩ := (Below.child isKid below).exists_parent different
  have levelPlace := represents.level_le application placeBelow
  have same := represents.parent_unique application
    (placeBelow.mem (mem_cons_of_mem root inTree)) parentMember
    (mem_kids.mp placeKid).2 (mem_kids.mp sibling).2
  rw [same] at levelPlace
  omega

/-- Where the job is not, the search changes nothing. -/
theorem Represents.remove_absent (represents : Represents requests root tree present)
    (application : Application requests root) (fuel : Nat) (front rest : List ι)
    (parentMember : parent ∈ root :: present)
    (kidsEq : kids requests root present parent = front ++ this :: rest)
    (enough : searchFuel requests root present parent (rest.length + 1) ≤ fuel)
    (absent : ∀ sibling ∈ this :: rest, ¬ Below requests root present sibling job) :
    removeAbstractDiagJob requests fuel tree this job = some tree := by
  induction fuel generalizing this parent front rest with
  | zero =>
    rw [searchFuel] at enough
    omega
  | succ fuel ih =>
    have isThis : this ∈ kids requests root present parent := by
      rw [kidsEq]
      exact mem_append_right _ mem_cons_self
    obtain ⟨inTree, child⟩ := mem_kids.mp isThis
    have thisMember := mem_cons_of_mem root inTree
    have thisAbsent := absent this mem_cons_self
    have deeper := application.searchFuel_kid present child
      (represents.ne_root inTree) (rest.length + 1)
    have below : ∀ kid ∈ kids requests root present this,
        ¬ Below requests root present kid job := fun kid isKid kidBelow =>
      thisAbsent (.child isKid kidBelow)
    have start := (represents.linked this thisMember).start_eq
    have next := kidsEq ▸ represents.linked parent parentMember
    have nextEq : tree.nextJob this = rest.head? := next.next_eq
    have different : job ≠ this := by
      rintro rfl
      exact thisAbsent (.refl job)
    have notFirst : some job ≠ tree.firstChild this := by
      intro first
      rw [start] at first
      exact below job (mem_of_mem_head? first.symm) (.refl job)
    have children : callAt (fun tree first => removeAbstractDiagJob requests fuel tree first job)
        tree (tree.firstChild this) = some tree := by
      rw [start]
      cases kidsThis : kids requests root present this with
      | nil => rfl
      | cons first others =>
        rw [kidsThis] at below deeper
        rw [length_cons] at deeper
        exact ih [] others thisMember kidsThis (by omega) below
    rw [removeAbstractDiagJob, if_neg different, if_neg notFirst, children]
    change (if tree.nextJob this = some job then _ else _) = _
    rw [nextEq]
    cases rest with
    | nil => rfl
    | cons second rest =>
      have secondDifferent : second ≠ job := by
        rintro rfl
        exact absent second (mem_cons_of_mem _ mem_cons_self) (.refl second)
      rw [List.head?_cons, if_neg fun same => secondDifferent (Option.some.inj same)]
      rw [searchFuel, length_cons] at enough
      exact ih (front ++ [this]) rest parentMember
        (by rw [kidsEq, append_assoc]; rfl) (by rw [searchFuel]; omega)
        fun sibling member => absent sibling (mem_cons_of_mem _ member)

/-- A removed job is below no job any more. -/
theorem Represents.not_below_erase (represents : Represents requests root tree present)
    (notRoot : job ≠ root) (member : this ∈ root :: present.erase job) :
    ¬ Below requests root (present.erase job) this job := by
  intro below
  refine (nodup_cons.mp represents.nodup).2.not_mem_erase (a := job) ?_
  exact (mem_cons.mp (below.mem member)).resolve_left notRoot

/-- The fuel for a tree without the job. -/
theorem searchFuel_erase (requests : ι → JobRequest) (root : ι) (present : List ι) (parent job : ι)
    (count : Nat) :
    searchFuel requests root (present.erase job) parent count ≤
      searchFuel requests root present parent count := by
  have size : (present.erase job).length ≤ present.length := length_erase_le
  have whole := Nat.mul_le_mul_left (depthBelow requests root parent) (Nat.add_le_add_right size 2)
  rw [searchFuel, searchFuel]
  omega

/-- A sibling is taken out of the list, since the next one is another job. -/
theorem Represents.setNextJob_next (represents : Represents requests root tree present)
    {front rest : List ι} (parentMember : parent ∈ root :: present)
    (kidsEq : kids requests root present parent = front ++ this :: job :: rest) :
    tree.setNextJob requests this (tree.nextJob job) =
      { tree with nextJob := update tree.nextJob this (tree.nextJob job) } := by
  have kidsNodup : (kids requests root present parent).Nodup :=
    (nodup_cons.mp represents.nodup).2.filter _
  have leads := represents.linked parent parentMember
  have inTree : ∀ kid ∈ this :: job :: rest, kid ∈ present := fun kid member =>
    (mem_kids.mp (kidsEq ▸ mem_append_right front member)).1
  rw [kidsEq] at kidsNodup leads
  have nextEq : tree.nextJob job = rest.head? := by
    rw [append_cons] at leads
    exact leads.next_eq
  have apart := (nodup_cons.mp (nodup_append.mp kidsNodup).2.1).1
  rw [setNextJob, if_neg]
  rw [nextEq]
  cases rest with
  | nil =>
    rintro (same | same)
    · cases same
    · cases same
  | cons third rest =>
    have isThird : third ∈ this :: job :: third :: rest :=
      mem_cons_of_mem _ (mem_cons_of_mem _ mem_cons_self)
    have other : third ≠ this := by
      rintro rfl
      exact apart (mem_cons_of_mem _ mem_cons_self)
    have unequal := represents.unequal third (inTree third isThird) this
      (inTree this mem_cons_self) other
    rintro (same | same)
    · exact other (Option.some.inj same)
    · exact Bool.false_ne_true (unequal.symm.trans same)

/-- Where the job is, the search unlinks it. -/
theorem Represents.remove_present (represents : Represents requests root tree present)
    (application : Application requests root) (fuel : Nat) (front rest : List ι)
    (parentMember : parent ∈ root :: present)
    (kidsEq : kids requests root present parent = front ++ this :: rest)
    (enough : searchFuel requests root present parent (rest.length + 1) ≤ fuel)
    (inTree : job ∈ present) (noKids : kids requests root present job = [])
    (different : job ≠ this)
    (found : ∃ sibling ∈ this :: rest, Below requests root present sibling job) :
    ∃ unlinked, removeAbstractDiagJob requests fuel tree this job = some unlinked ∧
      IsUnlinked requests root present tree job unlinked := by
  induction fuel generalizing this parent front rest with
  | zero =>
    rw [searchFuel] at enough
    omega
  | succ fuel ih =>
    have isThis : this ∈ kids requests root present parent := by
      rw [kidsEq]
      exact mem_append_right _ mem_cons_self
    obtain ⟨thisInTree, child⟩ := mem_kids.mp isThis
    have thisMember := mem_cons_of_mem root thisInTree
    have notRoot := represents.ne_root inTree
    have deeper := application.searchFuel_kid present child
      (represents.ne_root thisInTree) (rest.length + 1)
    have start := (represents.linked this thisMember).start_eq
    have leads := kidsEq ▸ represents.linked parent parentMember
    have nextEq : tree.nextJob this = rest.head? := leads.next_eq
    rw [removeAbstractDiagJob, if_neg different]
    by_cases first : some job = tree.firstChild this
    · rw [if_pos first]
      refine ⟨_, rfl, this, thisMember, .inl ⟨(kids requests root present this).tail, ?_, rfl⟩⟩
      rw [start] at first
      exact (List.cons_head?_tail first.symm).symm
    rw [if_neg first]
    by_cases inside : ∃ kid ∈ kids requests root present this,
        Below requests root present kid job
    · -- the job is unlinked below, and then it is nowhere
      obtain ⟨kid, isKid, kidBelow⟩ := inside
      obtain ⟨unlinked, children, isUnlinked⟩ : ∃ unlinked,
          callAt (fun tree first => removeAbstractDiagJob requests fuel tree first job) tree
            (tree.firstChild this) = some unlinked ∧
          IsUnlinked requests root present tree job unlinked := by
        rw [start] at first ⊢
        cases kidsThis : kids requests root present this with
        | nil =>
          rw [kidsThis] at isKid
          exact absurd isKid not_mem_nil
        | cons top others =>
          rw [kidsThis] at isKid deeper first
          rw [length_cons] at deeper
          exact ih [] others thisMember kidsThis (by omega)
            (fun same => first (congrArg some same)) ⟨kid, isKid, kidBelow⟩
      refine ⟨unlinked, ?_, isUnlinked⟩
      have remains := isUnlinked.represents represents application noKids
      have apart := represents.not_sibling application parentMember isThis isKid kidBelow
      have keptEq : kids requests root (present.erase job) parent = front ++ this :: rest := by
        rw [kids_erase (nodup_cons.mp represents.nodup).2, erase_of_not_mem apart,
          kidsEq]
      have keptMember : parent ∈ root :: present.erase job := by
        rcases mem_cons.mp parentMember with rfl | later
        · exact mem_cons_self
        · refine mem_cons_of_mem _ ((mem_erase_of_ne ?_).mpr later)
          rintro rfl
          rw [noKids] at isThis
          exact absurd isThis not_mem_nil
      have keptNext : unlinked.nextJob this = rest.head? :=
        (keptEq ▸ remains.linked parent keptMember).next_eq
      rw [children]
      change (if unlinked.nextJob this = some job then _ else _) = _
      rw [keptNext]
      cases rest with
      | nil => rfl
      | cons second rest =>
        have inKids : second ∈ kids requests root present parent := by
          rw [kidsEq]
          exact mem_append_right _ (mem_cons_of_mem _ mem_cons_self)
        have other : some second ≠ some job := by
          rintro same
          exact apart ((Option.some.inj same) ▸ inKids)
        rw [List.head?_cons, if_neg other]
        have less := searchFuel_erase requests root present parent job (rest.length + 1)
        have shorter : searchFuel requests root present parent (rest.length + 1) ≤ fuel := by
          rw [searchFuel, length_cons] at enough
          rw [searchFuel]
          omega
        refine remains.remove_absent application fuel (front ++ [this]) rest keptMember
          (by rw [keptEq, append_assoc]; rfl) (by omega) fun sibling member => ?_
        refine represents.not_below_erase notRoot (mem_cons_of_mem _ ?_)
        have isKept : sibling ∈ kids requests root (present.erase job) parent := by
          rw [keptEq]
          exact mem_append_right _ (mem_cons_of_mem _ member)
        exact (mem_kids.mp isKept).1
    · -- the job is a later sibling, or below one
      have children : callAt
          (fun tree first => removeAbstractDiagJob requests fuel tree first job) tree
            (tree.firstChild this) = some tree := by
        rw [start]
        cases kidsThis : kids requests root present this with
        | nil => rfl
        | cons top others =>
          rw [kidsThis] at inside deeper
          rw [length_cons] at deeper
          exact represents.remove_absent application fuel [] others thisMember kidsThis
            (by omega) fun kid isKid kidBelow => inside ⟨kid, isKid, kidBelow⟩
      rw [children]
      change ∃ unlinked, (if tree.nextJob this = some job then _ else _) = _ ∧ _
      rw [nextEq]
      have later : ∃ sibling ∈ rest, Below requests root present sibling job := by
        obtain ⟨sibling, member, below⟩ := found
        rcases mem_cons.mp member with rfl | later
        · exact absurd (below.exists_kid different) inside
        · exact ⟨sibling, later, below⟩
      cases rest with
      | nil =>
        obtain ⟨_, member, _⟩ := later
        exact absurd member not_mem_nil
      | cons second rest =>
        rw [List.head?_cons]
        by_cases isSecond : second = job
        · subst isSecond
          rw [if_pos rfl]
          refine ⟨_, rfl, parent, parentMember, .inr ⟨front, this, rest, kidsEq, ?_⟩⟩
          exact represents.setNextJob_next parentMember kidsEq
        · rw [if_neg fun same => isSecond (Option.some.inj same)]
          rw [searchFuel, length_cons] at enough
          exact ih (front ++ [this]) rest parentMember
            (by rw [kidsEq, append_assoc]; rfl) (by rw [searchFuel]; omega)
            (Ne.symm isSecond) later

/-- Removing a job without children takes it out of the tree, and another job is not found. -/
theorem Represents.remove_spec (represents : Represents requests root tree present)
    (application : Application requests root) (job : ι) (fuel : Nat)
    (enough : 258 * (present.length + 2) < fuel) :
    (job ∉ present → removeAbstractDiagJob requests fuel tree root job = some tree) ∧
    (job ∈ present → kids requests root present job = [] →
      ∃ unlinked, removeAbstractDiagJob requests fuel tree root job = some unlinked ∧
        Represents requests root unlinked (present.erase job)) := by
  obtain ⟨fuel, rfl⟩ : ∃ smaller, fuel = smaller + 1 := ⟨fuel - 1, by omega⟩
  have rootMember : root ∈ root :: present := mem_cons_self
  have start := (represents.linked root rootMember).start_eq
  have size := length_kids_le requests root present root
  have most : depthBelow requests root root ≤ 257 := Nat.sub_le ..
  have whole := Nat.mul_le_mul_right (present.length + 2) most
  have isFirst : ∀ other, some other = tree.firstChild root → other ∈ present := by
    intro other first
    rw [start] at first
    exact (mem_kids.mp (mem_of_mem_head? first.symm)).1
  constructor
  · intro absent
    rw [removeAbstractDiagJob]
    by_cases isRoot : job = root
    · rw [if_pos isRoot]
      rfl
    have children : callAt
        (fun tree first => removeAbstractDiagJob requests fuel tree first job) tree
          (tree.firstChild root) = some tree := by
      rw [start]
      cases kidsRoot : kids requests root present root with
      | nil => rfl
      | cons top others =>
        rw [kidsRoot, length_cons] at size
        refine represents.remove_absent application fuel [] others rootMember kidsRoot
          (by rw [searchFuel]; omega) fun kid isKid below => ?_
        have kidMember := (mem_kids.mp (kidsRoot ▸ isKid)).1
        have member := below.mem (mem_cons_of_mem _ kidMember)
        exact absent ((mem_cons.mp member).resolve_left isRoot)
    rw [if_neg isRoot, if_neg fun first => absent (isFirst job first), children]
    change (if tree.nextJob root = some job then _ else _) = _
    rw [represents.rootNext]
    rfl
  · intro inTree noKids
    have notRoot := represents.ne_root inTree
    suffices unlinks : ∃ unlinked,
        removeAbstractDiagJob requests (fuel + 1) tree root job = some unlinked ∧
          IsUnlinked requests root present tree job unlinked by
      obtain ⟨unlinked, removed, isUnlinked⟩ := unlinks
      exact ⟨unlinked, removed, isUnlinked.represents represents application noKids⟩
    rw [removeAbstractDiagJob, if_neg notRoot]
    by_cases first : some job = tree.firstChild root
    · rw [if_pos first]
      refine ⟨_, rfl, root, rootMember, .inl ⟨(kids requests root present root).tail, ?_, rfl⟩⟩
      rw [start] at first
      exact (List.cons_head?_tail first.symm).symm
    rw [if_neg first]
    obtain ⟨kid, isKid, below⟩ := (represents.below_root application
      (mem_cons_of_mem _ inTree)).exists_kid notRoot
    obtain ⟨unlinked, children, isUnlinked⟩ : ∃ unlinked,
        callAt (fun tree first => removeAbstractDiagJob requests fuel tree first job) tree
          (tree.firstChild root) = some unlinked ∧
        IsUnlinked requests root present tree job unlinked := by
      rw [start] at first ⊢
      cases kidsRoot : kids requests root present root with
      | nil =>
        rw [kidsRoot] at isKid
        exact absurd isKid not_mem_nil
      | cons top others =>
        rw [kidsRoot] at isKid first
        rw [kidsRoot, length_cons] at size
        exact represents.remove_present application fuel [] others rootMember kidsRoot
          (by rw [searchFuel]; omega) inTree noKids (fun same => first (congrArg some same))
          ⟨kid, isKid, below⟩
    refine ⟨unlinked, ?_, isUnlinked⟩
    have remains := isUnlinked.represents represents application noKids
    rw [children]
    change (if unlinked.nextJob root = some job then _ else _) = _
    rw [remains.rootNext]
    rfl

end OpenBsw.Uds
