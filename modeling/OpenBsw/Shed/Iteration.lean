import OpenBsw.Shed.Membership

/-!
# Iterating over members and others

Each iterator visits a set of items in descending order as long as the visitor
wants to go on.  The iterators over the items outside of buckets walk down an
index and the lists of these buckets side by side.
-/

namespace OpenBsw.Shed

universe u

variable {T : Type u} {f : T → Nat → Bool × T} {list : MultiList} {bucket : Nat → Nat}
  {b c p rounds : Nat} {state : T}

namespace Represents

/-- Behind a position in a bucket comes the first item of the bucket below it, or the head. -/
theorem items_eq (represents : Represents list bucket) (valid : p < list.n + list.buckets)
    (at_bucket : bucketAt bucket list.n p = b) :
    list.items p = next bucket list.n b (min p list.n) := by
  rw [represents.items p valid, at_bucket]

theorem items_head (represents : Represents list bucket) (inside : b < list.buckets) :
    list.items (list.n + b) = next bucket list.n b list.n := by
  have limit : min (list.n + b) list.n = list.n := by omega
  rw [represents.items_eq (Nat.add_lt_add_left inside _) bucketAt_head, limit]

theorem items_item (represents : Represents list bucket) (item : p < list.n) :
    list.items p = next bucket list.n (bucket p) p := by
  have limit : min p list.n = p := by omega
  rw [represents.items_eq (Nat.lt_add_right _ item) (bucketAt_item item), limit]

theorem inBucketLoop (represents : Represents list bucket) {limit : Nat} (within : limit ≤ list.n)
    (enough : (downward (fun i => bucket i = b) limit).length < rounds) :
    MultiList.inBucketLoop list.items f (list.n + b) rounds (next bucket list.n b limit) state =
      some (visit f state (downward (fun i => bucket i = b) limit)) := by
  generalize remaining : downward (fun i => bucket i = b) limit = rest at enough
  induction rest generalizing limit state rounds with
  | nil =>
    obtain ⟨rounds, rfl⟩ : ∃ fewer, rounds = fewer + 1 := ⟨rounds - 1, by omega⟩
    have none : next bucket list.n b limit = list.n + b := by
      rw [next, below, remaining]
      rfl
    rw [MultiList.inBucketLoop, if_pos none, visit]
  | cons i rest ih =>
    obtain ⟨rounds, rfl⟩ : ∃ fewer, rounds = fewer + 1 := ⟨rounds - 1, by omega⟩
    obtain ⟨inside, member, behind, _⟩ := downward_eq_cons remaining
    have here : next bucket list.n b limit = i := by
      rw [next, below, remaining]
      rfl
    rw [MultiList.inBucketLoop, here, if_neg (by omega), visit]
    by_cases goesOn : (f state i).1 = true
    · rw [if_pos goesOn, if_pos goesOn, represents.items_item (by omega), member]
      apply ih (by omega) behind.symm
      rw [List.length_cons] at enough
      omega
    · rw [if_neg goesOn, if_neg goesOn]

/-- The members of a bucket are visited. -/
theorem inBucket (represents : Represents list bucket) (f : T → Nat → Bool × T) (state : T)
    (inside : b < list.buckets)
    (enough : list.n < rounds) :
    list.inBucket f rounds b state = some (visit f state (members bucket list.n b)) := by
  rw [MultiList.inBucket, represents.items_head inside]
  exact represents.inBucketLoop (Nat.le_refl _) (Nat.lt_of_le_of_lt length_members enough)

/-! ## Outside of one bucket -/

/-- The inner loop stops at the next index outside of the bucket. -/
theorem skipMembers (represents : Represents list bucket) {left : Nat} (within : left ≤ list.n)
    (head : b < list.buckets) (enough : left < rounds) :
    list.skipMembers rounds (list.n - left + 1) (next bucket list.n b left) =
      match downward (fun i => bucket i ≠ b) left with
      | [] => some (list.n + 1, list.n + b)
      | k :: _ => some (list.n - k, next bucket list.n b k) := by
  induction left generalizing rounds with
  | zero =>
    obtain ⟨rounds, rfl⟩ : ∃ fewer, rounds = fewer + 1 := ⟨rounds - 1, by omega⟩
    have size := represents.size
    have outside : sizeSub list.n (list.n + 1) ≠ list.n + b := by
      rw [sizeSub, if_neg (by omega)]
      omega
    have none : next bucket list.n b 0 = list.n + b := rfl
    rw [MultiList.skipMembers, Nat.sub_zero, none, if_neg outside]
    rfl
  | succ left ih =>
    obtain ⟨rounds, rfl⟩ : ∃ fewer, rounds = fewer + 1 := ⟨rounds - 1, by omega⟩
    have index : list.n - (left + 1) + 1 = list.n - left := by omega
    have difference : sizeSub list.n (list.n - left) = left := by
      rw [sizeSub, if_pos (Nat.sub_le _ _)]
      omega
    rw [MultiList.skipMembers, index, difference, downward_succ]
    by_cases member : bucket left = b
    · have here : next bucket list.n b (left + 1) = left := by
        apply next_of_some
        rw [below_succ, if_pos member]
      rw [here, if_pos rfl, if_neg (not_not.mpr member), represents.items_item (by omega), member]
      exact ih (by omega) (by omega)
    · have same : next bucket list.n b (left + 1) = next bucket list.n b left := by
        rw [next, below_succ, if_neg member, next]
      have apart : left ≠ next bucket list.n b left := by
        intro equal
        have found := below_eq_some_iff.mp (next_item equal.symm (by omega))
        exact Nat.lt_irrefl _ found.1
      rw [same, if_neg apart, if_pos member]

theorem notInBucketLoop (represents : Represents list bucket) {left skipRounds : Nat}
    (within : left ≤ list.n) (head : b < list.buckets) (enough : left < rounds)
    (skips : list.n < skipRounds) :
    list.notInBucketLoop f skipRounds rounds (list.n - left) (next bucket list.n b left) state =
      some (visit f state (downward (fun i => bucket i ≠ b) left)) := by
  induction rounds generalizing left state with
  | zero => exact absurd enough (Nat.not_lt_zero _)
  | succ rounds ih =>
    rw [MultiList.notInBucketLoop, represents.skipMembers within head (by omega)]
    cases remaining : downward (fun i => bucket i ≠ b) left with
    | nil =>
      simp only
      rw [if_neg (Nat.lt_irrefl _), visit]
    | cons k rest =>
      obtain ⟨inside, _, behind, _⟩ := downward_eq_cons remaining
      have difference : sizeSub list.n (list.n - k) = k := by
        rw [sizeSub, if_pos (Nat.sub_le _ _)]
        omega
      simp only
      rw [if_pos (by omega), difference, visit]
      by_cases goesOn : (f state k).1 = true
      · rw [if_pos goesOn, if_pos goesOn, ih (by omega) (by omega), behind]
      · rw [if_neg goesOn, if_neg goesOn]

/-- The items outside of a bucket are visited. -/
theorem notInBucket (represents : Represents list bucket) (f : T → Nat → Bool × T) (state : T)
    (inside : b < list.buckets)
    (enough : list.n < rounds) :
    list.notInBucket f rounds b state =
      some (visit f state (downward (fun i => bucket i ≠ b) list.n)) := by
  rw [MultiList.notInBucket, represents.items_head inside,
    ← represents.notInBucketLoop (Nat.le_refl _) inside enough enough, Nat.sub_self]

/-! ## Outside of two buckets -/

/-- Whether an index is at the walked position tells whether it is in the bucket. -/
theorem next_succ (bucket : Nat → Nat) (b : Nat) {i n : Nat} (inside : i < n) :
    (i = next bucket n b (i + 1) ↔ bucket i = b) ∧
      (bucket i ≠ b → next bucket n b (i + 1) = next bucket n b i) := by
  have step : bucket i ≠ b → next bucket n b (i + 1) = next bucket n b i := by
    intro other
    rw [next, below_succ, if_neg other, next]
  refine ⟨⟨fun here => ?_, fun member => ?_⟩, step⟩
  · by_contra other
    rw [step other] at here
    exact Nat.lt_irrefl _ (below_eq_some_iff.mp (next_item here.symm inside)).1
  · rw [next, below_succ, if_pos member]
    rfl

/-- The two walked positions, one step further down. -/
theorem walk (represents : Represents list bucket) {i : Nat} (inside : i < list.n) :
    (if i = next bucket list.n b (i + 1) then list.items (next bucket list.n b (i + 1))
      else next bucket list.n b (i + 1)) = next bucket list.n b i := by
  obtain ⟨here, step⟩ := next_succ bucket b inside
  by_cases member : bucket i = b
  · rw [if_pos (here.mpr member), ← here.mpr member, represents.items_item inside, member]
  · rw [if_neg fun equal => member (here.mp equal), step member]

theorem notInBucketsLoop (represents : Represents list bucket) {limit : Nat}
    (within : limit ≤ list.n) :
    MultiList.notInBucketsLoop (fun _ => list) f limit (next bucket list.n b limit)
        (next bucket list.n c limit) state =
      visit f state (downward (fun i => bucket i ≠ b ∧ bucket i ≠ c) limit) := by
  induction limit generalizing state with
  | zero => rfl
  | succ i ih =>
    have inside : i < list.n := within
    have first := next_succ bucket b inside
    have second := next_succ bucket c inside
    rw [MultiList.notInBucketsLoop, downward_succ]
    simp only [represents.walk inside]
    by_cases excluded : i = next bucket list.n b (i + 1) ∨ i = next bucket list.n c (i + 1)
    · rw [if_pos excluded, if_neg]
      · exact ih (Nat.le_of_lt inside)
      · rintro ⟨notFirst, notSecond⟩
        rcases excluded with isFirst | isSecond
        · exact notFirst (first.1.mp isFirst)
        · exact notSecond (second.1.mp isSecond)
    · have outside : bucket i ≠ b ∧ bucket i ≠ c :=
        ⟨fun member => excluded (Or.inl (first.1.mpr member)),
          fun member => excluded (Or.inr (second.1.mpr member))⟩
      rw [if_neg excluded, if_pos outside, visit]
      by_cases goesOn : (f state i).1 = true
      · rw [if_pos goesOn, if_pos goesOn]
        exact ih (Nat.le_of_lt inside)
      · rw [if_neg goesOn, if_neg goesOn]

/-- The items outside of two buckets are visited. -/
theorem notInBuckets (represents : Represents list bucket) (f : T → Nat → Bool × T) (state : T)
    (first : b < list.buckets)
    (second : c < list.buckets) :
    MultiList.notInBuckets (fun _ => list) f b c state =
      visit f state (downward (fun i => bucket i ≠ b ∧ bucket i ≠ c) list.n) := by
  rw [MultiList.notInBuckets, represents.items_head first, represents.items_head second]
  exact represents.notInBucketsLoop (Nat.le_refl _)

end Represents

end OpenBsw.Shed
