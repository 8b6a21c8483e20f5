import OpenBsw.Data.CompleteTree
import OpenBsw.Transition.System

/-!
# Buddy memory manager

The only state is a tag for each node of a complete binary tree.  A node is free
or used as a whole, or it is a link: its memory belongs to nodes above or below
it.  Acquiring splits a free node; releasing merges free buddies.
-/

namespace OpenBsw.Util

inductive NodeTag
  | used
  | link
  | free
  deriving DecidableEq

structure BuddyMemoryManager where
  nodeTree : List NodeTag
  nodeTreeDepth : Nat
  numBuckets : Nat

structure AcquireResult where
  bucketIndex : Nat := 0
  numBuckets : Nat := 0
  deriving DecidableEq

def AcquireResult.isValid (result : AcquireResult) : Bool :=
  result.numBuckets != 0

namespace BuddyMemoryManager

/-- The position of the highest set bit. -/
def fastLog2 (value : Nat) : Nat :=
  value.log2

/-! ## Nodes -/

def setTag (manager : BuddyMemoryManager) (nodePosition : Nat) (tag : NodeTag) :
    BuddyMemoryManager :=
  { manager with nodeTree := manager.nodeTree.set nodePosition tag }

def tagNodeUsed (manager : BuddyMemoryManager) (nodePosition : Nat) : BuddyMemoryManager :=
  manager.setTag nodePosition .used

def tagNodeFree (manager : BuddyMemoryManager) (nodePosition : Nat) : BuddyMemoryManager :=
  manager.setTag nodePosition .free

def tagNodeLink (manager : BuddyMemoryManager) (nodePosition : Nat) : BuddyMemoryManager :=
  manager.setTag nodePosition .link

def tag (manager : BuddyMemoryManager) (nodePosition : Nat) : NodeTag :=
  manager.nodeTree.getD nodePosition .link

def isNodeFree (manager : BuddyMemoryManager) (nodePosition : Nat) : Bool :=
  manager.tag nodePosition == .free

def isNodeUsed (manager : BuddyMemoryManager) (nodePosition : Nat) : Bool :=
  manager.tag nodePosition == .used

def isLeftSibling (nodePosition : Nat) : Bool :=
  nodePosition &&& 1 != 0

def parentPosition (nodePosition : Nat) : Nat :=
  (nodePosition - 1) >>> 1

def buddy (nodePosition : Nat) : Nat :=
  if isLeftSibling nodePosition then nodePosition + 1 else nodePosition - 1

def levelToBucketNum (manager : BuddyMemoryManager) (level : Nat) : Nat :=
  1 <<< (manager.nodeTreeDepth - 1 - level)

/-! ## Clearing -/

def clearNodeTree (manager : BuddyMemoryManager) : BuddyMemoryManager :=
  { manager with
    nodeTree := (List.replicate manager.nodeTree.length .link).set 0 .free }

def clear (manager : BuddyMemoryManager) : BuddyMemoryManager :=
  manager.clearNodeTree

/-- The constructor, for a span of any contents. -/
def new (nodeTree : List NodeTag) : BuddyMemoryManager :=
  let nodeTreeDepth := fastLog2 (nodeTree.length + 1)
  clear { nodeTree, nodeTreeDepth, numBuckets := 1 <<< (nodeTreeDepth - 1) }

def isEmpty (manager : BuddyMemoryManager) : Bool :=
  manager.tag 0 == .free &&
    (List.range (manager.nodeTree.length - 1)).all fun i => manager.tag (i + 1) == .link

/-! ## Acquiring -/

/-- The first free one of `count` nodes from a position on. -/
def findNode (manager : BuddyMemoryManager) : (count nodePosition : Nat) → Option Nat
  | 0, _ => none
  | count + 1, nodePosition =>
    if manager.isNodeFree nodePosition then some nodePosition
    else manager.findNode count (nodePosition + 1)

def findBucketInLevel (manager : BuddyMemoryManager) (level : Nat) :
    AcquireResult × BuddyMemoryManager :=
  let numberOfNodesInLevel := 1 <<< level
  let startPositionOfLevel := numberOfNodesInLevel - 1
  match manager.findNode numberOfNodesInLevel startPositionOfLevel with
  | some i =>
    let bucketNum := manager.levelToBucketNum level
    let index := (i - startPositionOfLevel) * bucketNum
    ({ bucketIndex := index, numBuckets := bucketNum }, manager.tagNodeUsed i)
  | none => ({}, manager)

/-- One round of the splitting loop. -/
def splitNode (manager : BuddyMemoryManager) (nodePosition : Nat) : BuddyMemoryManager :=
  let leftChild := (nodePosition <<< 1) + 1
  let rightChild := leftChild + 1
  ((manager.tagNodeLink nodePosition).tagNodeFree leftChild).tagNodeFree rightChild

/-- The rounds of the splitting loop, which goes on with the left child. -/
def splitRounds (manager : BuddyMemoryManager) : (rounds nodePosition : Nat) → BuddyMemoryManager
  | 0, _ => manager
  | rounds + 1, nodePosition =>
    (manager.splitNode nodePosition).splitRounds rounds ((nodePosition <<< 1) + 1)

/-- The condition of the loop comes behind its body. -/
def splitNodeUntilLevelReached (manager : BuddyMemoryManager)
    (nodePosition level targetLevel : Nat) : BuddyMemoryManager :=
  manager.splitRounds (max 1 (targetLevel - level)) nodePosition

/-- The loop of `tryToSplitParentLevel` from a level up to the root. -/
def splitFromLevel (manager : BuddyMemoryManager) (level : Nat) :
    (currentLevel : Nat) → BuddyMemoryManager
  | 0 =>
    match manager.findNode (1 <<< 0) ((1 <<< 0) - 1) with
    | some i => manager.splitNodeUntilLevelReached i 0 level
    | none => manager
  | currentLevel + 1 =>
    match manager.findNode (1 <<< (currentLevel + 1)) ((1 <<< (currentLevel + 1)) - 1) with
    | some i => manager.splitNodeUntilLevelReached i (currentLevel + 1) level
    | none => manager.splitFromLevel level currentLevel

def tryToSplitParentLevel (manager : BuddyMemoryManager) (level : Nat) : BuddyMemoryManager :=
  manager.splitFromLevel level (level - 1)

/-- No number of buckets up to that of the manager is lost by the shift, since
the tree has nearly twice as many nodes. -/
def acquireMemory (manager : BuddyMemoryManager) (numBuckets : Nat) :
    AcquireResult × BuddyMemoryManager :=
  if numBuckets > manager.numBuckets then ({}, manager)
  else
    let numBuckets := if numBuckets = 0 then 1 else numBuckets
    let level := manager.nodeTreeDepth - fastLog2 ((numBuckets <<< 1) - 1) - 1
    let bucket := manager.findBucketInLevel level
    if bucket.1.isValid then bucket
    else if level = 0 then ({}, manager)
    else (manager.tryToSplitParentLevel level).findBucketInLevel level

/-! ## Releasing -/

def freeNode (manager : BuddyMemoryManager) (nodePosition : Nat) : BuddyMemoryManager :=
  if 0 < nodePosition then
    let buddyPosition := buddy nodePosition
    if manager.isNodeFree buddyPosition then
      ((manager.tagNodeLink nodePosition).tagNodeLink buddyPosition).freeNode
        (parentPosition nodePosition)
    else manager.tagNodeFree nodePosition
  else manager.tagNodeFree nodePosition
termination_by nodePosition
decreasing_by
  rw [parentPosition, Nat.shiftRight_eq_div_pow]
  omega

/-- The loop of `releaseMemoryExtended` over the levels that remain.  Numbers of
type `size_t` have `sizeBits` bits. -/
def releaseFromLevel (sizeBits : Nat) (manager : BuddyMemoryManager) (bucketIndex : Nat) :
    (remaining level numBuckets numberOfNodesInLevel : Nat) → Nat × BuddyMemoryManager
  | 0, _, _, _ => (0, manager)
  | remaining + 1, level, numBuckets, numberOfNodesInLevel =>
    let next := manager.releaseFromLevel sizeBits bucketIndex remaining (level + 1)
      (numBuckets >>> 1) (numberOfNodesInLevel <<< 1)
    if bucketIndex &&& (numBuckets - 1) = 0 then
      let startPositionOfLevel := numberOfNodesInLevel - 1
      let i := (startPositionOfLevel + bucketIndex >>> (manager.nodeTreeDepth - level - 1)) %
        2 ^ sizeBits
      if startPositionOfLevel + numberOfNodesInLevel ≤ i then (0, manager)
      else if manager.isNodeUsed i then (numBuckets, manager.freeNode i)
      else next
    else next

/-- The number of released buckets, and the manager. -/
def releaseMemoryExtended (sizeBits : Nat) (manager : BuddyMemoryManager) (bucketIndex : Nat) :
    Nat × BuddyMemoryManager :=
  manager.releaseFromLevel sizeBits bucketIndex manager.nodeTreeDepth 0 manager.numBuckets 1

end BuddyMemoryManager

end OpenBsw.Util
