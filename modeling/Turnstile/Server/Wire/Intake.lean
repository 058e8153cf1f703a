/-!
# What a client has received

A client receives bytes into a room of its own, as many at a time as the room has free, but at
most a portion. Bytes that were read are given up only when more have to be received, up to the
piece that could not be read to its end, and when a whole value has been read. So the places of
bytes, which count from the first that is not given up, depend on how the bytes came in.
`Intake.await` receives until a piece is complete.
-/

namespace Turnstile.Wire

/-- The client's end of a connection. -/
structure Intake where
  /-- What has been received and not yet read. -/
  ready : List UInt8 := []
  /-- What the server wrote and the client has not received. -/
  coming : List UInt8 := []
  /-- How many bytes were read and are not given up: the place of the first that is ready. -/
  place : Nat := 0
  /-- The size of the room in front, of bytes that are given up. -/
  given : Nat := 0
  /-- The size of the room that is free, behind the bytes that are ready. -/
  free : Nat := 0

namespace Intake

/-- Writes bytes at the server's end. -/
def write (bytes : List UInt8) (i : Intake) : Intake := { i with coming := i.coming ++ bytes }

/-- Gives up what has been read. -/
def settle (i : Intake) : Intake := { i with given := i.given + i.place, place := 0 }

/-- The size of a portion. At most so much is received at a time, and at least so much room is
made for it. -/
def portion : Nat := 8192

/-- Makes room where none is free: in front, if that is enough and moves no more bytes than
are given up, or else by a larger room, of twice the size or more. -/
def makeRoom (i : Intake) : Intake :=
  if i.free ≠ 0 then i
  else if portion ≤ i.given ∧ i.ready.length ≤ i.given then
    { i with given := 0, free := i.given }
  else { i with free := max (i.given + i.ready.length) portion }

/-- Fills the free room with a portion of what comes. -/
def fill (i : Intake) : Intake :=
  let size := min i.free portion
  let received := i.coming.take size
  { i with
    ready := i.ready ++ received
    coming := i.coming.drop size
    free := i.free - received.length }

/-- Receives a portion, as far as there is room for it. -/
def receive (i : Intake) : Intake := i.settle.makeRoom.fill

theorem coming_makeRoom (i : Intake) : i.makeRoom.coming = i.coming := by
  unfold makeRoom
  split
  · rfl
  · split <;> rfl

theorem free_makeRoom_pos (i : Intake) : 0 < i.makeRoom.free := by
  unfold makeRoom
  split
  · omega
  · split
    · next h => exact Nat.lt_of_lt_of_le (by decide : 0 < portion) h.1
    · exact Nat.lt_of_lt_of_le (by decide : 0 < portion) (Nat.le_max_right ..)

/-- Where bytes come, some are received. -/
theorem length_coming_receive {i : Intake} (h : i.coming ≠ []) :
    i.receive.coming.length < i.coming.length := by
  have pos := free_makeRoom_pos i.settle
  have some := List.length_pos_iff.2 h
  have same : i.settle.makeRoom.coming = i.coming := coming_makeRoom i.settle
  have size : 0 < portion := by decide
  simp only [receive, fill, List.length_drop, same]
  omega

/-- Takes bytes that are ready. -/
def advance (size : Nat) (i : Intake) : Intake :=
  { i with ready := i.ready.drop size, place := i.place + size }

/-- Receives until a piece is complete, and takes it: what there is of it in the bytes that
are ready, and its size. A piece that is not admitted is taken only if bytes that follow it have
been received, too. Where none has, it is given up, and the next piece is awaited in its place.
Nothing comes of it if the server writes no more. -/
def await {α : Type} (piece? : List UInt8 → Option (α × Nat)) (isAdmitted : α → Bool)
    (i : Intake) : Option (α × Intake) :=
  match piece? i.ready with
  | some (a, size) =>
    let rest := i.advance size
    if isAdmitted a || !rest.ready.isEmpty then some (a, rest)
    else if h : rest.coming = [] then none
    else
      have : rest.receive.coming.length < i.coming.length := length_coming_receive h
      await piece? isAdmitted rest.receive
  | none =>
    if h : i.coming = [] then none
    else
      have := length_coming_receive h
      await piece? isAdmitted i.receive
termination_by i.coming.length

/-- The place at which something starts that began with one intake and led to another. When
bytes were received in between, it was begun again at the first that is kept. -/
def placeBefore (start i : Intake) : Nat :=
  if start.coming.length = i.coming.length then start.place else 0

end Intake

end Turnstile.Wire
