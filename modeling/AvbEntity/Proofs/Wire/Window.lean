import AvbEntity.Proofs.Wire.Codec

/-!
# How far reading looks

Reading a layout is total: where octets are missing, it goes on as if there were none. So every
length check has to stand in front of the reading that it is for. Two things are said here of what
is read behind such a check. It is told by the octets that were asked for, whatever follows them;
and all of these octets are there.

For the second, the control header is read once more from windows: a window is given out only if it
lies within what was received, and it is all that the reader gets to see. Both ways of reading
agree, so that no window is ever refused.

## Main definitions

* `Layout.Confined`: a layout looks at no octet behind its width
* `ReadFault`, `Octets.window`: octets at a place, refused unless all of them are there
* `Layout.readAt`: the value of a layout, read from a window
* `ControlHeader.decodeWithin`, `ControlHeader.decodeExpectingWithin`: the control header, read from
  windows

## Main results

* `Layout.Confined.pair`, `Layout.Confined.iso`: composite layouts are confined if their parts are
* `ControlHeader.decode_take`: twelve octets tell the control header
* `Layout.Confined.readAt_eq`: a window that is there holds the value
* `ControlHeader.decodeWithin_eq`: the control header is read within what was received
-/

namespace AvbEntity

/-! ## What follows does not matter -/

namespace Layout

variable {α β : Type}

theorem number_take {w n : Nat} (h : w ≤ n) (bs : Octets) :
    number w (bs.take n) = number w bs := by
  rw [number, List.take_take, Nat.min_eq_left h]
  rfl

/-- A number behind other octets. -/
theorem number_drop_take {w start n : Nat} (h : start + w ≤ n) (bs : Octets) :
    number w ((bs.take n).drop start) = number w (bs.drop start) := by
  rw [List.drop_take]
  exact number_take (by omega) _

/-- The layout looks at no octet behind its width. -/
def Confined (l : Layout α) : Prop :=
  ∀ bs n, l.width ≤ n → l.read (bs.take n) = l.read bs

theorem confined_word8 : word8.Confined :=
  fun bs _ h => congrArg UInt8.ofNat (number_take h bs)

theorem confined_word16 : word16.Confined :=
  fun bs _ h => congrArg UInt16.ofNat (number_take h bs)

theorem confined_word32 : word32.Confined :=
  fun bs _ h => congrArg UInt32.ofNat (number_take h bs)

theorem confined_eui64 : eui64.Confined :=
  fun bs _ h => congrArg Eui64.ofNat (number_take h bs)

theorem confined_mac : mac.Confined :=
  fun bs _ h => congrArg Mac.ofNat (number_take h bs)

theorem confined_reserved (w : Nat) : (reserved w).Confined := fun _ _ _ => rfl

theorem Confined.pair {l : Layout α} {r : Layout β} (hl : l.Confined) (hr : r.Confined) :
    (l.pair r).Confined := by
  intro bs n h
  have hwidth : l.width + r.width ≤ n := h
  have hleft : l.read (bs.take n) = l.read bs := hl bs n (by omega)
  have hright : r.read ((bs.take n).drop l.width) = r.read (bs.drop l.width) := by
    rw [List.drop_take]
    exact hr _ _ (by omega)
  exact Prod.ext hleft hright

theorem Confined.iso {l : Layout α} (hl : l.Confined) (make : α → β) (back : β → α) :
    (l.iso make back).Confined :=
  fun bs n h => congrArg make (hl bs n h)

/-- A layout behind other octets. -/
theorem Confined.drop_take {l : Layout α} (hl : l.Confined) {start n : Nat}
    (h : start + l.width ≤ n) (bs : Octets) :
    l.read ((bs.take n).drop start) = l.read (bs.drop start) := by
  rw [List.drop_take]
  exact hl _ _ (by omega)

end Layout

/-- The octets that are needed are among more of them, or too few in both. -/
theorem ensureLength_take {needed n : Nat} (h : needed ≤ n) (bs : Octets) :
    ensureLength (bs.take n) needed = ensureLength bs needed := by
  obtain hshort | hlong := Nat.lt_or_ge bs.length n
  · rw [List.take_of_length_le (Nat.le_of_lt hshort)]
  · have hleft : ensureLength (bs.take n) needed = .ok () := by
      rw [ensureLength_eq_ok, List.length_take_of_le hlong]
      exact h
    have hright : ensureLength bs needed = .ok () :=
      ensureLength_eq_ok.mpr (Nat.le_trans h hlong)
    rw [hleft, hright]

namespace ControlHeader

theorem ofOctets_take {n : Nat} (h : length ≤ n) (bs : Octets) :
    ofOctets (bs.take n) = ofOctets bs := by
  rw [length] at h
  have hfirst : Layout.number 1 (bs.take n) = Layout.number 1 bs :=
    Layout.number_take (by omega) bs
  have hsecond : Layout.number 1 ((bs.take n).drop 1) = Layout.number 1 (bs.drop 1) :=
    Layout.number_drop_take (by omega) bs
  have hword : Layout.number 2 ((bs.take n).drop 2) = Layout.number 2 (bs.drop 2) :=
    Layout.number_drop_take (by omega) bs
  have hid : Layout.eui64.read ((bs.take n).drop 4) = Layout.eui64.read (bs.drop 4) :=
    Layout.confined_eui64.drop_take h bs
  simp only [ofOctets, hfirst, hsecond, hword, hid]

/-- Twelve octets tell the header, or why there is none. -/
theorem decode_take {n : Nat} (h : length ≤ n) (bs : Octets) :
    decode (bs.take n) = decode bs := by
  have hfirst : Layout.number 1 (bs.take n) = Layout.number 1 bs :=
    Layout.number_take (Nat.le_trans (by decide) h) bs
  rw [decode, decode, ensureLength_take h, hfirst, ofOctets_take h]

theorem decodeExpecting_take {n : Nat} (h : length ≤ n) (subtype : Subtype) (bs : Octets) :
    decodeExpecting subtype (bs.take n) = decodeExpecting subtype bs := by
  rw [decodeExpecting, decodeExpecting, decode_take h]

end ControlHeader

/-! ## Reading from windows -/

/-- What stops a reader that is given windows of what was received. -/
inductive ReadFault where
  | decode (fault : DecodeError)
  /-- A window was asked for that does not lie within what was received. -/
  | outOfBounds (start width received : Nat)
  deriving DecidableEq

/-- The octets at a place; nothing is given out unless all of them are there. -/
def Octets.window (bs : Octets) (start width : Nat) : Except ReadFault Octets :=
  if start + width ≤ bs.length then .ok ((bs.drop start).take width)
  else .error (.outOfBounds start width bs.length)

theorem Octets.window_eq {bs : Octets} {start width : Nat} (h : start + width ≤ bs.length) :
    bs.window start width = .ok ((bs.drop start).take width) :=
  if_pos h

/-- The value of a layout at a place, told by a window as wide as the layout. -/
def Layout.readAt {α : Type} (l : Layout α) (bs : Octets) (start : Nat) : Except ReadFault α :=
  l.read <$> bs.window start l.width

/-- The window of a value that is there tells the value. -/
theorem Layout.Confined.readAt_eq {α : Type} {l : Layout α} (hl : l.Confined) {bs : Octets}
    {start : Nat} (h : start + l.width ≤ bs.length) :
    l.readAt bs start = .ok (l.read (bs.drop start)) := by
  rw [readAt, Octets.window_eq h, Except.map_ok, hl _ _ (Nat.le_refl _)]

namespace ControlHeader

/-- The header at the start of a payload, read from a window. -/
def decodeWithin (bs : Octets) : Except ReadFault ControlHeader := do
  (ensureLength bs length).mapError .decode
  let header ← bs.window 0 length
  if Layout.number 1 header < 128 then throw (.decode .notControl)
  let h := ofOctets header
  if h.version != supportedVersion then throw (.decode (.unsupportedVersion h.version))
  return h

/-- The header of a payload that has to belong to the sub-protocol, read from a window. -/
def decodeExpectingWithin (subtype : Subtype) (bs : Octets) : Except ReadFault ControlHeader := do
  let h ← decodeWithin bs
  if h.subtype != subtype.code then throw (.decode (.unexpectedSubtype h.subtype))
  return h

end ControlHeader

/-- Decoders agree if they do so behind a first part that agrees. -/
theorem mapError_bind_congr {ε ε' α β : Type} {x : Except ε α} {f : α → Except ε β}
    {f' : α → Except ε' β} {g : ε → ε'} (h : ∀ a, x = .ok a → f' a = (f a).mapError g) :
    (x.mapError g >>= f') = (x >>= f).mapError g := by
  cases x with
  | error e => rfl
  | ok a => exact h a rfl

/-- Behind a length check the rest of a decoder may take the length for granted. -/
theorem ensureLength_bind_congr {α : Type} {bs : Octets} {needed : Nat}
    {f : Except ReadFault α} {g : Except DecodeError α}
    (h : needed ≤ bs.length → f = g.mapError .decode) :
    ((ensureLength bs needed).mapError .decode >>= fun _ => f) =
      (ensureLength bs needed >>= fun _ => g).mapError .decode :=
  mapError_bind_congr fun _ hlong => h (ensureLength_eq_ok.mp hlong)

namespace ControlHeader

/-- The header lies within what was received. -/
theorem decodeWithin_eq (bs : Octets) : decodeWithin bs = (decode bs).mapError .decode := by
  refine ensureLength_bind_congr fun hlong => ?_
  have hwindow : bs.window 0 length = .ok (bs.take length) :=
    Octets.window_eq ((Nat.zero_add length).symm ▸ hlong)
  have hfirst : Layout.number 1 (bs.take length) = Layout.number 1 bs :=
    Layout.number_take (by decide) bs
  rw [hwindow, bind_ok, hfirst, ofOctets_take (Nat.le_refl _)]
  by_cases hcontrol : Layout.number 1 bs < 128
  · rw [if_pos hcontrol, if_pos hcontrol]
    rfl
  · rw [if_neg hcontrol, if_neg hcontrol]
    by_cases hversion : ((ofOctets bs).version != supportedVersion) = true
    · simp only [hversion, if_true]
      rfl
    · simp only [hversion]
      rfl

theorem decodeExpectingWithin_eq (subtype : Subtype) (bs : Octets) :
    decodeExpectingWithin subtype bs = (decodeExpecting subtype bs).mapError .decode := by
  rw [decodeExpectingWithin, decodeWithin_eq]
  refine mapError_bind_congr fun h _ => ?_
  by_cases hsubtype : (h.subtype != subtype.code) = true
  · simp only [hsubtype, if_true]
    rfl
  · simp only [hsubtype]
    rfl

end ControlHeader

end AvbEntity
