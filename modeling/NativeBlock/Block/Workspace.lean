import NativeBlock.Wire.Prefixed

/-!
# Write workspace

Writers draw one buffer for the block header and one for each column they open, and hand them
back when a column is dropped or fails to finish, and when the block is finished or dropped. A
`Workspace` keeps up to `limit` idle buffers for the blocks written after, with the bytes they
last held and the room reserved for them, and the scratch that a dictionary column collects its
texts and keys in.

A buffer drawn is the idle one handed back last, or a new one with no room; it is emptied and
given room for at least the larger of the size asked for and the workspace's initial capacity.
A buffer handed back is kept, emptied, only if it has room and fewer than `limit` are idle: the
buffer a committed column leaves behind, its bytes taken, has none.
-/

namespace NativeBlock

structure Buffer where
  bytes : ByteArray
  /-- The room the buffer is known to have; the workspace reads only whether it is zero. -/
  capacity : Nat

namespace Buffer

/-- What is left where a buffer's bytes were taken: no bytes and no room. -/
def empty : Buffer := ⟨ByteArray.empty, 0⟩

def setBytes (b : Buffer) (bytes : ByteArray) : Buffer := { b with bytes := bytes }

end Buffer

/-- What a dictionary column has collected so far. -/
structure DictionaryScratch where
  /-- The distinct texts in the order first written; a text's key is its position. -/
  texts : Array String
  /-- Each distinct text with its length, in key order. -/
  entries : ByteArray
  /-- The key of every row written. -/
  keys : Array Nat

namespace DictionaryScratch

def empty : DictionaryScratch := ⟨#[], ByteArray.empty, #[]⟩

def cardinality (d : DictionaryScratch) : Nat := d.texts.size

/-- The key of `v`: its position among the texts, or the next position if it is new. -/
def keyOf (texts : Array String) (v : String) : Nat :=
  (texts.idxOf? v).getD texts.size

/-- Records a row's text: a new text is added with its entry, and the row's key is kept. -/
def add (d : DictionaryScratch) (v : String) : DictionaryScratch :=
  let key := keyOf d.texts v
  let d := if key = d.texts.size then
      { d with texts := d.texts.push v, entries := Wire.writePrefixed d.entries v.toUTF8 }
    else d
  { d with keys := d.keys.push key }

end DictionaryScratch

/-- Buffers and scratch kept across the blocks a caller writes. -/
structure Workspace where
  /-- The most idle buffers kept. -/
  limit : Nat
  /-- The least room a buffer is given when drawn. -/
  initialCapacity : Nat
  /-- Idle buffers, the one handed back last at the end. -/
  free : Array Buffer
  scratch : DictionaryScratch

namespace Workspace

/-- A workspace with no idle buffer. -/
def withLimits (limit initialCapacity : Nat) : Workspace :=
  ⟨limit, initialCapacity, #[], .empty⟩

/-- The workspace a writer makes for itself: up to 64 idle buffers, each drawn with room for at
least 4096 bytes. -/
def default : Workspace := withLimits 64 4096

def pooled (ws : Workspace) : Nat := ws.free.size

def acquire (ws : Workspace) (hint : Nat) : Buffer × Workspace :=
  let buf := ws.free.back?.getD Buffer.empty
  (⟨ByteArray.empty, max buf.capacity (max hint ws.initialCapacity)⟩, { ws with free := ws.free.pop })

def release (ws : Workspace) (buf : Buffer) : Workspace :=
  if buf.capacity = 0 ∨ ws.limit ≤ ws.free.size then ws
  else { ws with free := ws.free.push (buf.setBytes ByteArray.empty) }

def releaseAll (ws : Workspace) (bufs : List Buffer) : Workspace := bufs.foldl release ws

/-- Sets the limit, dropping the idle buffers past it. -/
def setLimit (ws : Workspace) (limit : Nat) : Workspace :=
  { ws with limit := limit, free := ws.free.take limit }

end Workspace

end NativeBlock
