import ChessnutMove.Protocol.DistinctCommands

set_option autoImplicit false

/-! # Equality of commands

The derived equality of `Command` compares the whole buffer, while a transport reads only its first
`len` bytes. On the commands that are built through `Command.fromBytes` the two agree, because such
a command holds zeros behind its bytes. The length has to be compared with the buffer: it alone
tells a command from the same command followed by zero bytes (`buffer_eq_iff`). -/

namespace ChessnutMove

open PaddedBuffer

namespace Command

/-- The derived `PartialEq` of `Command`. -/
def eq (left right : Command) : Bool :=
  left.buffer == right.buffer && left.len == right.len && left.writeKind == right.writeKind

/-- A command that some array was passed through `from_bytes` for. -/
def Built (command : Command) : Prop :=
  ∃ (n : Nat) (input : Vector UInt8 n) (writeKind : WriteKind) (h : n ≤ maxCommandLen),
    command = fromBytes input writeKind h

theorem ext_iff {left right : Command} :
    left = right ↔
      left.buffer = right.buffer ∧ left.len = right.len ∧ left.writeKind = right.writeKind := by
  obtain ⟨buffer, len, writeKind, hlen⟩ := left
  obtain ⟨buffer', len', writeKind', hlen'⟩ := right
  rw [Command.mk.injEq]

theorem eq_iff {left right : Command} : left.eq right = true ↔ left = right := by
  rw [ext_iff, eq, Bool.and_eq_true, Bool.and_eq_true, beq_iff_eq, beq_iff_eq, beq_iff_eq,
    and_assoc]

/-! ## What is behind the bytes -/

theorem length_bytes (command : Command) : command.bytes.length = command.len.toNat := by
  rw [bytes, List.length_take_of_le]
  rw [Vector.length_toList]
  exact command.len_le

theorem len_eq_iff {left right : Command} :
    left.len = right.len ↔ left.bytes.length = right.bytes.length := by
  rw [length_bytes, length_bytes, UInt8.toNat_inj]

/-- **The commands with zeros behind their bytes are those built through `from_bytes`.** -/
theorem built_iff {command : Command} :
    command.Built ↔ Pads 0 command.buffer command.bytes := by
  constructor
  · rintro ⟨n, input, writeKind, h, rfl⟩
    rw [bytes_fromBytes]
    exact pads_fromBytes input writeKind h
  · intro hpads
    let input : Vector UInt8 command.bytes.length := ⟨command.bytes.toArray, rfl⟩
    have hbound := hpads.length_le
    have hlen := (toNat_len_fromBytes input command.writeKind hbound).trans command.length_bytes
    refine ⟨_, input, command.writeKind, hbound, ext_iff.2 ⟨?_, ?_, rfl⟩⟩
    · exact hpads.cells_eq (pads_fromBytes input command.writeKind hbound)
    · exact (UInt8.toNat_inj.1 hlen).symm

/-- Built commands are equal when a transport cannot tell them apart. -/
theorem Built.eq_iff {left right : Command} (h : left.Built) (h' : right.Built) :
    left.eq right = true ↔ left.bytes = right.bytes ∧ left.writeKind = right.writeKind := by
  rw [Command.eq_iff, ext_iff, (built_iff.1 h).eq_iff (built_iff.1 h'), ← len_eq_iff, and_assoc]

theorem built_fromBytes {n : Nat} (input : Vector UInt8 n) (writeKind : WriteKind)
    (h : n ≤ maxCommandLen) : (fromBytes input writeKind h).Built :=
  ⟨n, input, writeKind, h, rfl⟩

section TwoInputs

variable {n n' : Nat} (input : Vector UInt8 n) (input' : Vector UInt8 n')
  (writeKind writeKind' : WriteKind)

/-- **The fixed buffer is faithful.** Whatever array a command is built from, its bytes are that
    array and the rest of its buffer is zero, and it equals another such command exactly if both
    have the same bytes and the same write kind. -/
theorem fromBytes_faithful (h : n ≤ maxCommandLen) (h' : n' ≤ maxCommandLen) :
    (fromBytes input writeKind h).bytes = input.toList ∧
      (∀ j (hj : j < maxCommandLen), n ≤ j → (fromBytes input writeKind h).buffer[j] = 0) ∧
      ((fromBytes input writeKind h).eq (fromBytes input' writeKind' h') = true ↔
        (fromBytes input writeKind h).bytes = (fromBytes input' writeKind' h').bytes ∧
          (fromBytes input writeKind h).writeKind
            = (fromBytes input' writeKind' h').writeKind) := by
  have hpads := pads_fromBytes input writeKind h
  have hbuilt := built_fromBytes input writeKind h
  have hbuilt' := built_fromBytes input' writeKind' h'
  refine ⟨bytes_fromBytes input writeKind h, fun j hj hle => ?_, hbuilt.eq_iff hbuilt'⟩
  refine hpads.getElem_eq hj ?_
  rwa [Vector.length_toList]

theorem fromBytes_faithful_zeroPadded :
    (fromBytes #v[0x21, 0x01] .withResponse).bytes = [0x21, 0x01] ∧
      (∀ j (hj : j < maxCommandLen), 2 ≤ j →
        (fromBytes #v[0x21, 0x01] .withResponse).buffer[j] = 0) ∧
      (fromBytes #v[0x21, 0x01] .withResponse).buffer = enableRealtimeUpdates.buffer ∧
      ¬(fromBytes #v[0x21, 0x01] .withResponse).eq enableRealtimeUpdates := by
  obtain ⟨hbytes, htail, heq⟩ := fromBytes_faithful #v[0x21, 0x01] #v[0x21, 0x01, 0x00]
    .withResponse .withResponse (by decide) (by decide)
  refine ⟨hbytes, htail, by decide, ?_⟩
  rw [enableRealtimeUpdates, heq]
  decide

/-- The buffers of two commands are the same exactly if the longer array is the shorter one followed
    by zeros. -/
theorem buffer_eq_iff (h : n ≤ maxCommandLen) (h' : n' ≤ maxCommandLen) (hle : n ≤ n') :
    (fromBytes input writeKind h).buffer = (fromBytes input' writeKind' h').buffer ↔
      input'.toList = input.toList ++ List.replicate (n' - n) 0 := by
  have hlength : input.toList.length ≤ input'.toList.length := by
    rwa [Vector.length_toList, Vector.length_toList]
  rw [(pads_fromBytes input writeKind h).cells_eq_iff (pads_fromBytes input' writeKind' h') hlength,
    Vector.length_toList, Vector.length_toList]

/-- Commands of different lengths are not equal, whatever the buffers hold. -/
theorem eq_fromBytes_of_lt (h : n ≤ maxCommandLen) (h' : n' ≤ maxCommandLen) (hlt : n < n') :
    (fromBytes input writeKind h).eq (fromBytes input' writeKind' h') = false := by
  rw [Bool.eq_false_iff]
  intro heq
  have hlen := congrArg (fun command => command.len.toNat) (Command.eq_iff.1 heq)
  simp only [toNat_len_fromBytes] at hlen
  omega

end TwoInputs

end Command

/-! ## The typed constructors -/

namespace Construction

/-- The write operation of a construction. -/
def writeKind : Construction → WriteKind
  | .autoMove .. | .stopAutoMove | .setLeds _ => .withoutResponse
  | .enableRealtimeUpdates | .readBatteryLevel | .readPieceStatus => .withResponse

/-- Every constructor passes its array through `from_bytes`. -/
theorem built_of_command {construction : Construction} {command : Command}
    (h : construction.command = some command) :
    command.Built ∧ command.writeKind = construction.writeKind := by
  cases construction with
  | autoMove position mode =>
      obtain ⟨packed, -, rfl⟩ := Command.autoMove_eq_some_iff.1 h
      exact ⟨Command.built_fromBytes .., rfl⟩
  | setLeds pattern =>
      obtain ⟨packed, -, rfl⟩ := Command.setLeds_eq_some_iff.1 h
      exact ⟨Command.built_fromBytes .., rfl⟩
  | stopAutoMove | enableRealtimeUpdates | readBatteryLevel | readPieceStatus =>
      obtain rfl := Option.some.inj h
      exact ⟨Command.built_fromBytes .., rfl⟩

theorem writeKind_of_stopsLike {construction construction' : Construction}
    (h : StopsLike construction construction') :
    construction.writeKind = construction'.writeKind := by
  obtain ⟨rfl, position, rfl, -⟩ := h
  rfl

/-- **Equal commands come from equal constructions**, but for the two ways to stop. -/
theorem eq_command_iff {construction construction' : Construction} {command command' : Command}
    (h : construction.command = some command) (h' : construction'.command = some command') :
    command.eq command' = true ↔ construction = construction' ∨
      StopsLike construction construction' ∨ StopsLike construction' construction := by
  obtain ⟨hbuilt, hkind⟩ := built_of_command h
  obtain ⟨hbuilt', hkind'⟩ := built_of_command h'
  rw [hbuilt.eq_iff hbuilt', sends_eq_iff (sends_of_command h) (sends_of_command h'), hkind, hkind',
    and_iff_left_iff_imp]
  rintro (rfl | hstop | hstop)
  · rfl
  · exact writeKind_of_stopsLike hstop
  · exact (writeKind_of_stopsLike hstop).symm

end Construction

end ChessnutMove
