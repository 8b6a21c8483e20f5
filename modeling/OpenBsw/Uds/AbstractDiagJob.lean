import OpenBsw.Data.Links

/-!
# Diagnostic jobs and their tree

A job knows the request it implements and how many bytes of it are checked by
the job above.  The jobs are linked to a tree by pointers to their first child
and to the next job with the same parent.  A result `none` of a function is a
recursion or a loop that has not come to an end.
-/

namespace OpenBsw.Uds

universe u

/-- The constant members of a job that its place in the tree depends on. -/
structure JobRequest where
  implementedRequest : Option (List UInt8)
  requestLength : Nat
  prefixLength : Nat

inductive JobErrorCode where
  | JOB_ADDED
  | JOB_NOT_ADDED
  deriving DecidableEq

/-- The pointers of all jobs. -/
structure JobTree (ι : Type u) where
  firstChild : ι → Option ι := fun _ => none
  nextJob : ι → Option ι := fun _ => none

namespace AbstractDiagJob

/-- Whether the first bytes agree. -/
def compare (data1 data2 : Option (List UInt8)) (length : Nat) : Bool :=
  if length = 0 then true
  else
    match data1, data2 with
    | none, none => true
    | some data1, some data2 => data1.take length == data2.take length
    | _, _ => false

/-- `operator==`.  Jobs without implemented requests never match. -/
def equal (x y : JobRequest) : Bool :=
  x.implementedRequest.isSome && y.implementedRequest.isSome &&
    x.requestLength == y.requestLength && x.prefixLength == y.prefixLength &&
      compare x.implementedRequest y.implementedRequest x.requestLength

def isFamily (job : JobRequest) (request : Option (List UInt8)) (length : Nat) : Bool :=
  if length ≤ job.prefixLength then compare request job.implementedRequest length else false

def isChild (job : JobRequest) (request : Option (List UInt8)) (length : Nat) : Bool :=
  if length = job.prefixLength then compare request job.implementedRequest length else false

end AbstractDiagJob

namespace JobTree

open AbstractDiagJob

variable {ι : Type u} [DecidableEq ι] (requests : ι → JobRequest)

def setNextJob (tree : JobTree ι) (this : ι) (job : Option ι) : JobTree ι :=
  if job = some this ∨ (job.any fun job => equal (requests job) (requests this)) then tree
  else { tree with nextJob := Function.update tree.nextJob this job }

/-- The job is the same as another one, or equal to it. -/
def isIdentical (current job : ι) : Bool :=
  current == job || equal (requests current) (requests job)

/-- The loop over the siblings in `addAbstractDiagJob`, which ends at the last of them, or at one
that is identical to the job. -/
def lastSibling (tree : JobTree ι) (job : ι) : Nat → ι → Option (Option ι)
  | 0, _ => none
  | fuel + 1, current =>
    if isIdentical requests current job then
      return none
    else
      let current := (tree.nextJob current).getD current
      if (tree.nextJob current).isSome then lastSibling tree job fuel current
      else if isIdentical requests current job then return none
      else return some current

/-- The loop that asks the children from `current` on. -/
def askChildren (add : JobTree ι → ι → Option (JobTree ι × JobErrorCode)) :
    Nat → JobTree ι → Option ι → Option (JobTree ι × JobErrorCode)
  | 0, _, _ => none
  | _ + 1, tree, none => return (tree, .JOB_NOT_ADDED)
  | fuel + 1, tree, some current => do
    let (tree, result) ← add tree current
    if result = .JOB_ADDED then
      return (tree, .JOB_ADDED)
    askChildren add fuel tree (tree.nextJob current)

/-- Reset the pointers of a job that has been added. -/
def reset (tree : JobTree ι) (job : ι) : JobTree ι where
  firstChild := Function.update tree.firstChild job none
  nextJob := Function.update tree.nextJob job none

/-- Add a job as a child of `this`. -/
def addChild (width : Nat) (tree : JobTree ι) (this job : ι) :
    Option (JobTree ι × JobErrorCode) :=
  match tree.firstChild this with
  | none =>
    return (reset { tree with firstChild := Function.update tree.firstChild this (some job) } job,
      .JOB_ADDED)
  | some first => do
    match ← lastSibling requests tree job width first with
    | none => return (tree, .JOB_NOT_ADDED)
    | some last => return (reset (tree.setNextJob requests last (some job)) job, .JOB_ADDED)

/-- Recursions go down at most `depth` levels, and loops pass at most `width` jobs. -/
def addAbstractDiagJob (width : Nat) :
    Nat → JobTree ι → ι → ι → Option (JobTree ι × JobErrorCode)
  | 0, _, _, _ => none
  | depth + 1, tree, this, job =>
    if job = this then
      return (tree, .JOB_NOT_ADDED)
    else if equal (requests job) (requests this) ∨ some job = tree.firstChild this then
      return (tree, .JOB_NOT_ADDED)
    else if isChild (requests job) (requests this).implementedRequest
        (requests this).requestLength then
      addChild requests width tree this job
    else if isFamily (requests job) (requests this).implementedRequest
        (requests this).requestLength then
      askChildren (fun tree current => addAbstractDiagJob width depth tree current job) width tree
        (tree.firstChild this)
    else
      return (tree, .JOB_NOT_ADDED)

/-- A call for a job, if the pointer to it is not null. -/
def callAt (call : JobTree ι → ι → Option (JobTree ι)) (tree : JobTree ι) :
    Option ι → Option (JobTree ι)
  | none => some tree
  | some this => call tree this

/-- Recursions are nested at most `fuel` times. -/
def removeAbstractDiagJob : Nat → JobTree ι → ι → ι → Option (JobTree ι)
  | 0, _, _, _ => none
  | fuel + 1, tree, this, job =>
    if job = this then
      return tree
    else if some job = tree.firstChild this then
      return { tree with
        firstChild := Function.update tree.firstChild this (tree.nextJob job) }
    else do
      let tree ← callAt (fun tree first => removeAbstractDiagJob fuel tree first job) tree
        (tree.firstChild this)
      if tree.nextJob this = some job then
        return tree.setNextJob requests this (tree.nextJob job)
      callAt (fun tree next => removeAbstractDiagJob fuel tree next job) tree
        (tree.nextJob this)

end JobTree

end OpenBsw.Uds
