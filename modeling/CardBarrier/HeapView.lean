import CardBarrier.Act
import CardBarrier.Interval.Bounds

/-!
# What a barrier asks about objects

The barrier never looks into an object. What it has to know – whether an
array holds no references, where an object begins and ends, whether a single
whole object stands at an address – it asks of the runtime. The answers are
the runtime's affair: they may change from one question to the next, and a
question may stop at a fault.

`Objects` is the plainest such runtime, a list of objects by address.
-/

namespace CardBarrier

/-- **Questions about objects.** -/
class HeapView (ω : Type) where
  /-- The object is an array whose elements are not references. -/
  isReferenceFree : Address → Act ω Bool
  /-- The interval that the object takes, its header included. -/
  extent : Address → Act ω Interval
  /-- A single whole object stands there. -/
  isWhole : Address → Act ω Bool

/-- **An object as the heap knows it.** -/
structure HeapObject where
  /-- Where it begins. -/
  address : Address
  /-- Its length in heap words. -/
  words : UInt64
  /-- It is an array whose elements are not references. -/
  referenceFree : Bool := false
  /-- Bounds to answer with in place of those that its length gives. -/
  bounds? : Option (Address × Address) := none
  /-- It does not read as a single whole object. -/
  malformed : Bool := false
  deriving DecidableEq

namespace HeapObject

/-- The interval that the object takes. -/
def extent (o : HeapObject) : Except Fault Interval :=
  match o.bounds? with
  | some (start, stop) => Interval.ofBounds start stop
  | none => Interval.ofWords o.address o.words

end HeapObject

/-- **Objects by address**, at most one at each. -/
structure Objects where
  /-- The objects. -/
  entries : List HeapObject := []

namespace Objects

/-- The object at an address. -/
def find? (os : Objects) (a : Address) : Option HeapObject :=
  os.entries.find? (·.address == a)

/-- Forgets the object at an address. -/
def erase (os : Objects) (a : Address) : Objects :=
  ⟨os.entries.filter (·.address != a)⟩

/-- Puts an object in the place of any other at its address. -/
def insert (os : Objects) (o : HeapObject) : Objects :=
  ⟨o :: (os.erase o.address).entries⟩

/-- The objects of a list, later ones in the place of earlier. -/
def ofList (os : List HeapObject) : Objects := os.foldl insert {}

/-- The object at an address, which must be known. -/
def require (os : Objects) (a : Address) : Except Fault HeapObject :=
  match os.find? a with
  | some o => .ok o
  | none => .error (.unknownObject a)

/-- The answer to a question about the object at an address. -/
def answer {α : Type} (question : HeapObject → Except Fault α) (a : Address) : Act Objects α :=
  Act.ofFun fun os => (os.require a >>= question, os)

/-- The object at an address is known and reads as a whole one. -/
def isWhole (os : Objects) (a : Address) : Bool := (os.find? a).any (!·.malformed)

instance : HeapView Objects where
  isReferenceFree := answer fun o => .ok o.referenceFree
  extent := answer HeapObject.extent
  isWhole a := Act.ofFun fun os => (.ok (os.isWhole a), os)

end Objects

end CardBarrier
