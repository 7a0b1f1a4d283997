import Mathlib.Data.List.DropRight
import Steward.Ingress

/-!
# `Steward.Readers`: the ingress readers and the startup folder

The socket, TCP and HTTP readers collect a client's bytes with the same loop. Each pass
makes a fresh 1500-byte buffer, reads into it, and appends the whole buffer, whatever count
`Read` returned, until `io.EOF`. The reader then trims NUL bytes from both ends with
`bytes.Trim` and hands the result to `convertBytesToSAMs`. A `Read` that returns fewer than
1500 bytes therefore leaves NUL padding behind its bytes. `readLoop_passes` says exactly
what is handed on, for every list of reads: the reads padded to 1500 bytes, the last one
not, with NULs trimmed from both ends. That is the client's bytes, trimmed, when every read
before the last was full. A short read before the last leaves NULs inside the bytes
(`readSocket_pads_short_read`).

After the loop a reader parses the bytes with `convertBytesToSAMs`, stamps every pair with
its own node and sends the batch to the ring buffer (`readerConn`).
`readerConn_enqueues_targets` says what that batch is, for every list of reads: the spec's
targets of the parsed messages, stamped, and so only persistable messages from the reader's
node. `readSocket` alone also sends an audit line per pair (`readerConn_info`).

`readStartupFolder` drops the startup messages without a `FromNode` before it calls their
handlers. It does so by deleting them from the slice it is ranging over, so after a
deletion the index steps over the entry that moved into the freed place. If the deleted
entry was the last one, the next pass indexes past the end of the shrunk slice.
`fromNodeFilter_eq` reads the loop along its input as `startupKept`.
`fromNodeFilter_keeps` follows from it. Whenever the loop finishes, it has kept every
message that has a `FromNode`, in order, and removed only messages that have none. It does
not always remove them all, and it can panic: `startupFolder_runs_handler_without_fromNode`.
`readStartupFolder` does this for each file `getFilePaths` lists, in order: a file it cannot
open or read is reported to the error kernel and skipped, and a panic in one file ends the
program before the files after it. When every startup message has a `FromNode`, none of this
happens: `readStartupFolder_of_fromNode` shows that the loop then neither panics nor removes a
pair, so every pair of every readable file reaches the dispatch.
-/

set_option autoImplicit false

namespace Steward

/-! ### `bytes.Trim(b, "\x00")` -/

/-- Go's `bytes.Trim(b, "\x00")`: the bytes without their leading and trailing NULs. -/
def bytesTrimNul (b : List UInt8) : List UInt8 :=
  (b.dropWhile (· == 0)).rdropWhile (· == 0)

theorem rdropWhile_append_replicate {p : UInt8 → Bool} (l : List UInt8) {a : UInt8}
    (ha : p a) : ∀ k, (l ++ List.replicate k a).rdropWhile p = l.rdropWhile p
  | 0 => by simp
  | k + 1 => by
    rw [List.replicate_succ', ← List.append_assoc, List.rdropWhile_concat_pos _ _ _ ha,
      rdropWhile_append_replicate l ha k]

/-- Trailing NULs make no difference to the trimmed bytes. -/
theorem bytesTrimNul_append_replicate (l : List UInt8) (k : Nat) :
    bytesTrimNul (l ++ List.replicate k 0) = bytesTrimNul l := by
  unfold bytesTrimNul
  rw [List.dropWhile_append]
  split
  · next h =>
    rw [List.isEmpty_iff.1 h, List.rdropWhile_nil,
      List.dropWhile_eq_nil_iff.2 (fun x hx => by simp [List.eq_of_mem_replicate hx]),
      List.rdropWhile_nil]
  · exact rdropWhile_append_replicate _ rfl k

/-! ### The read loop -/

/-- The error of a `Read` call: `io.EOF` or another. -/
inductive ReadError where
  | eof
  | other (err : String)

/-- What one `conn.Read(b)` on a fresh 1500-byte buffer did: the bytes it put at the start
of `b`, and its error. -/
structure ReadResult where
  data : List UInt8
  err : Option ReadError

/-- `b` after the read: the bytes read, then the zeros `make` put there. -/
def readBuffer (data : List UInt8) : List UInt8 := data ++ List.replicate (1500 - data.length) 0

/-- Where the read loop stands after a list of reads. -/
inductive ReadOutcome where
  /-- No read has ended the loop yet: it waits in the next `Read`. -/
  | reading (readBytes : List UInt8)
  /-- A read failed with an error other than `io.EOF`: the error is sent and the goroutine
  returns. -/
  | failed (e : ErrSend)
  /-- A read returned `io.EOF`: the loop broke with these bytes. -/
  | done (readBytes : List UInt8)

/-- The read loop of the readers, with the text of its read error: on `io.EOF` or no error
it appends the whole buffer, and on `io.EOF` it breaks. -/
def readLoop (errText : String) : List UInt8 → List ReadResult → ReadOutcome
  | readBytes, [] => .reading readBytes
  | readBytes, r :: rs =>
    match r.err with
    | some (.other err) => .failed ⟨Message.zero, errText ++ err⟩
    | some .eof => .done (readBytes ++ readBuffer r.data)
    | none => readLoop errText (readBytes ++ readBuffer r.data) rs

/-- The read loop of `readSocket`. -/
def readSocket.readLoop : List UInt8 → List ReadResult → ReadOutcome :=
  Steward.readLoop "error: failed to read data from socket: "

/-- The read loop of `readTCPListener`. -/
def readTCPListener.readLoop : List UInt8 → List ReadResult → ReadOutcome :=
  Steward.readLoop "error: failed to read data from tcp listener: "

/-- The read loop of `readHTTPlistenerHandler`. Its error text is the TCP listener's. -/
def readHTTPlistenerHandler.readLoop : List UInt8 → List ReadResult → ReadOutcome :=
  Steward.readLoop "error: failed to read data from tcp listener: "

/-- A read error on the HTTP listener is reported as one on the TCP listener. -/
theorem readHTTPlistenerHandler_readLoop_eq :
    readHTTPlistenerHandler.readLoop = readTCPListener.readLoop := rfl

/-- The bytes a reader hands to `convertBytesToSAMs`: the trimmed bytes, once the loop has
broken on `io.EOF`. -/
def ReadOutcome.passed : ReadOutcome → Option (List UInt8)
  | .done readBytes => some (bytesTrimNul readBytes)
  | _ => none

/-- Reads with no error, then one with `io.EOF`: the loop breaks with every buffer
appended. -/
theorem readLoop_eof (errText : String) (last : List UInt8) :
    ∀ (rs : List (List UInt8)) (acc : List UInt8),
      readLoop errText acc (rs.map (⟨·, none⟩) ++ [⟨last, some .eof⟩]) =
        .done (acc ++ (rs.map readBuffer).flatten ++ readBuffer last)
  | [], acc => by simp [readLoop]
  | d :: rs, acc => by
    simp only [List.map_cons, List.cons_append, readLoop, List.append_eq]
    rw [readLoop_eof errText last rs]
    simp

/-- What the readers hand to `convertBytesToSAMs`, for every list of reads that ends with
`io.EOF` (the last read may return bytes with it, or none): every read before the last
padded with NULs to 1500 bytes, the last read, NULs trimmed from both ends. When every read
before the last returned 1500 bytes, that is exactly the client's bytes, trimmed. -/
theorem readLoop_passes (errText : String) (rs : List (List UInt8)) (last : List UInt8) :
    (readLoop errText [] (rs.map (⟨·, none⟩) ++ [⟨last, some .eof⟩])).passed =
        some (bytesTrimNul ((rs.map readBuffer).flatten ++ last)) ∧
      ((∀ d ∈ rs, d.length = 1500) →
        (readLoop errText [] (rs.map (⟨·, none⟩) ++ [⟨last, some .eof⟩])).passed =
          some (bytesTrimNul (rs.flatten ++ last))) := by
  have hpass : (readLoop errText [] (rs.map (⟨·, none⟩) ++ [⟨last, some .eof⟩])).passed =
      some (bytesTrimNul ((rs.map readBuffer).flatten ++ last)) := by
    rw [readLoop_eof, ReadOutcome.passed, List.nil_append, readBuffer, ← List.append_assoc,
      bytesTrimNul_append_replicate]
  refine ⟨hpass, fun hfull => ?_⟩
  have hbuf : rs.map readBuffer = rs := by
    conv_rhs => rw [← List.map_id rs]
    exact List.map_congr_left fun d hd => by simp [readBuffer, hfull d hd]
  rw [hpass, hbuf]

/-- Two one-byte reads, the second with `io.EOF`, leave 1499 NULs between the bytes. -/
theorem readLoop_pads_short_read (errText : String) :
    (readLoop errText [] [⟨[97], none⟩, ⟨[98], some .eof⟩]).passed =
      some (97 :: List.replicate 1499 0 ++ [98]) := by
  show (readLoop _ [] ([[97]].map (⟨·, none⟩) ++ [⟨[98], some .eof⟩])).passed = _
  rw [(readLoop_passes _ [[97]] [98]).1]
  simp only [List.map_cons, List.map_nil, List.flatten_cons, List.flatten_nil,
    List.append_nil, readBuffer, bytesTrimNul, List.length_singleton, List.singleton_append,
    List.cons_append]
  rw [List.dropWhile_cons_of_neg (by decide)]
  show some (List.rdropWhile _
    (((97 : UInt8) :: List.replicate 1499 (0 : UInt8)) ++ [(98 : UInt8)])) = _
  rw [List.rdropWhile_concat_neg _ _ _ (by decide)]
  rfl

/-- A client sends the two bytes `a` and `b`, and the connection returns them one per
`Read`: each of the three readers hands on `a`, 1499 NULs and `b`, not the bytes sent. -/
theorem readSocket_pads_short_read :
    (readSocket.readLoop [] [⟨[97], none⟩, ⟨[98], some .eof⟩]).passed =
        some (97 :: List.replicate 1499 0 ++ [98]) ∧
      (readTCPListener.readLoop [] [⟨[97], none⟩, ⟨[98], some .eof⟩]).passed =
        some (97 :: List.replicate 1499 0 ++ [98]) ∧
      (readHTTPlistenerHandler.readLoop [] [⟨[97], none⟩, ⟨[98], some .eof⟩]).passed =
        some (97 :: List.replicate 1499 0 ++ [98]) :=
  ⟨readLoop_pads_short_read _, readLoop_pads_short_read _, readLoop_pads_short_read _⟩

/-! ### What a reader sends -/

/-- `sams[i].Message.FromNode = Node(s.nodeName)`: a pair stamped with the reader's node. -/
def stampFromNode (nodeName : Node) (sm : SubjectAndMessage) : SubjectAndMessage :=
  { sm with message := { sm.message with fromNode := nodeName } }

/-- A reader's handling of one connection (of one request, for `readHTTPlistenerHandler`),
from its reads: the errors it sends, in order, and the pairs it sends to the ring buffer, if
it gets that far. `errText` is the text of a read error and `malformed` that of a parse
error. Only `readSocket` sends an audit line per pair, `info`; the `%v` of the message at
its end is not spelled out. While the read loop still waits in `Read` nothing is sent. -/
def readerConn (errText : String) (malformed : String → String) (info : Option String)
    (unmarshal : List UInt8 → Except String (List Message)) (nodeName : Node)
    (reads : List ReadResult) : List ErrSend × Option (List SubjectAndMessage) :=
  match readLoop errText [] reads with
  | .reading _ => ([], none)
  | .failed e => ([e], none)
  | .done readBytes =>
    match convertBytesToSAMs unmarshal (bytesTrimNul readBytes) with
    | .error err => ([⟨Message.zero, malformed err⟩], none)
    | .ok (sams, errs) =>
      let sams := sams.map (stampFromNode nodeName)
      (errs ++ (info.map fun t => sams.map fun _ => ⟨Message.zero, t ++ nodeName ++ ": "⟩).getD [],
        some sams)

/-- The goroutine `readSocket` starts for a connection. Its parse error prints the bytes
before the parser's error, so the text stops before them. -/
def readSocket.conn : (List UInt8 → Except String (List Message)) → Node → List ReadResult →
    List ErrSend × Option (List SubjectAndMessage) :=
  readerConn "error: failed to read data from socket: "
    (fun _ => "error: malformed json received on socket: ")
    (some "info: message read from socket on ")

/-- The goroutine `readTCPListener` starts for a connection. -/
def readTCPListener.conn : (List UInt8 → Except String (List Message)) → Node → List ReadResult →
    List ErrSend × Option (List SubjectAndMessage) :=
  readerConn "error: failed to read data from tcp listener: "
    ("error: malformed json received on tcp listener: " ++ ·) none

/-- `readHTTPlistenerHandler` on the body of one request. -/
def readHTTPlistenerHandler : (List UInt8 → Except String (List Message)) → Node →
    List ReadResult → List ErrSend × Option (List SubjectAndMessage) :=
  readerConn "error: failed to read data from tcp listener: "
    ("error: malformed json received on HTTPListener: " ++ ·) none

/-- What a reader sends to the ring buffer, for every parser, node and list of reads: once
its read loop has broken on `io.EOF` and the trimmed bytes parse, the spec's targets of the
parsed messages, in order, each stamped with the reader's node, and nothing otherwise. -/
theorem readerConn_snd (errText : String) (malformed : String → String) (info : Option String)
    (unmarshal : List UInt8 → Except String (List Message)) (nodeName : Node)
    (reads : List ReadResult) :
    (readerConn errText malformed info unmarshal nodeName reads).2 =
      ((readLoop errText [] reads).passed.bind fun b => (unmarshal b).toOption).map
        fun msgs => ((msgs.flatMap fanOut).filterMap targetSam).map (stampFromNode nodeName) := by
  unfold readerConn
  cases readLoop errText [] reads with
  | reading _ => rfl
  | failed e => rfl
  | done readBytes =>
    simp only [ReadOutcome.passed, Option.some_bind, convertBytesToSAMs]
    cases unmarshal (bytesTrimNul readBytes) with
    | error err => rfl
    | ok msgs =>
      simp only [Except.toOption, Option.map_some', foldl_convertBytesToSAMs_fst,
        checkMessageToNodes, foldl_checkMessageToNodes_fst, List.nil_append]

/-- Every pair a reader sends to the ring buffer is a persistable message stamped with the
reader's node. -/
theorem readerConn_stamps (errText : String) (malformed : String → String)
    (info : Option String) (unmarshal : List UInt8 → Except String (List Message))
    (nodeName : Node) (reads : List ReadResult) :
    ∀ sams ∈ (readerConn errText malformed info unmarshal nodeName reads).2, ∀ sm ∈ sams,
      Persistable sm.message ∧ sm.message.fromNode = nodeName := by
  intro sams hs sm hsm
  rw [readerConn_snd] at hs
  obtain ⟨msgs, -, rfl⟩ := Option.mem_map.1 hs
  obtain ⟨sm', hsm', rfl⟩ := List.mem_map.1 hsm
  obtain ⟨m, -, hm⟩ := List.mem_filterMap.1 hsm'
  have hp := persistable_of_targetSam hm
  exact ⟨hp, rfl⟩

/-- The audit lines are all that `readSocket` sends beyond what the other readers send: one
per pair it puts on the ring buffer, after the errors of `convertBytesToSAMs`. -/
theorem readerConn_info (errText : String) (malformed : String → String) (t : String)
    (unmarshal : List UInt8 → Except String (List Message)) (nodeName : Node)
    (reads : List ReadResult) :
    (readerConn errText malformed (some t) unmarshal nodeName reads).1 =
      (readerConn errText malformed none unmarshal nodeName reads).1 ++
        ((readerConn errText malformed none unmarshal nodeName reads).2.getD []).map
          fun _ => ⟨Message.zero, t ++ nodeName ++ ": "⟩ := by
  unfold readerConn
  cases readLoop errText [] reads with
  | reading _ => rfl
  | failed e => rfl
  | done readBytes =>
    dsimp only
    cases convertBytesToSAMs unmarshal (bytesTrimNul readBytes) with
    | error err => rfl
    | ok p => simp

/-- What the socket, TCP and HTTP readers put on the ring buffer, for every parser, node and
list of reads: exactly the spec's targets of the messages parsed from the bytes the read
loop passed on, in order and stamped with the reader's node, and so only persistable
messages from that node. -/
theorem readerConn_enqueues_targets (errText : String) (malformed : String → String)
    (info : Option String) (unmarshal : List UInt8 → Except String (List Message))
    (nodeName : Node) (reads : List ReadResult) :
    (readerConn errText malformed info unmarshal nodeName reads).2 =
        ((readLoop errText [] reads).passed.bind fun b => (unmarshal b).toOption).map
          (fun msgs => ((msgs.flatMap fanOut).filterMap targetSam).map (stampFromNode nodeName)) ∧
      ∀ sams ∈ (readerConn errText malformed info unmarshal nodeName reads).2, ∀ sm ∈ sams,
        Persistable sm.message ∧ sm.message.fromNode = nodeName :=
  ⟨readerConn_snd .., readerConn_stamps errText malformed info unmarshal nodeName reads⟩

/-! ### The startup folder -/

/-- The error the filter loop sends for a startup message without `FromNode`. -/
def missingFromError : ErrSend := ⟨Message.zero, " error: missing from field in startup message"⟩

/-- The `FromNode` filter loop of `readStartupFolder`, at index `i` with `n` passes of the
`range` left, on the slice `sams` as it is now. Go fixes the number of passes at the
slice's length when the loop starts. `none` is the runtime panic of `sams[i]` past the end
of the shrunk slice. -/
def readStartupFolder.fromNodeLoop : Nat → Nat → List SubjectAndMessage → List ErrSend →
    Option (List SubjectAndMessage × List ErrSend)
  | 0, _, sams, errs => some (sams, errs)
  | n + 1, i, sams, errs =>
    match sams[i]? with
    | none => none
    | some sm =>
      if sm.message.fromNode = "" then
        let sams := sams.eraseIdx i
        let errs := errs ++ [missingFromError]
        if i + 1 = sams.length then some (sams, errs) else fromNodeLoop n (i + 1) sams errs
      else if i + 1 = sams.length then some (sams, errs)
      else fromNodeLoop n (i + 1) sams errs

/-- The filter loop on the pairs read from one startup file. -/
def readStartupFolder.fromNodeFilter (sams : List SubjectAndMessage) :
    Option (List SubjectAndMessage × List ErrSend) :=
  fromNodeLoop sams.length 0 sams []

/-- What the filter loop keeps, read along its input. An entry with a `FromNode` is kept.
An entry without one is removed, and the entry after it is kept unchecked. Once that has
happened (`skipped`), the `range` still has passes left when the slice runs out, and the
next pass panics. -/
def startupKept : Bool → List SubjectAndMessage → Option (List SubjectAndMessage)
  | skipped, [] => if skipped then none else some []
  | skipped, r :: rest =>
    if r.message.fromNode = "" then
      match rest with
      | [] => if skipped then none else some []
      | s :: more => if more.isEmpty then some [s] else (startupKept true more).map (s :: ·)
    else if rest.isEmpty then some [r] else (startupKept skipped rest).map (r :: ·)

section StartupLoop

open readStartupFolder

/-- One pass of the filter loop at the first entry `r` after the prefix `P`. -/
theorem fromNodeLoop_succ (n : Nat) (P : List SubjectAndMessage) (r : SubjectAndMessage)
    (rest : List SubjectAndMessage) (errs : List ErrSend) :
    fromNodeLoop (n + 1) P.length (P ++ r :: rest) errs =
      if r.message.fromNode = "" then
        if rest.length = 1 then some (P ++ rest, errs ++ [missingFromError])
        else fromNodeLoop n (P.length + 1) (P ++ rest) (errs ++ [missingFromError])
      else if rest.length = 0 then some (P ++ r :: rest, errs)
      else fromNodeLoop n (P.length + 1) (P ++ r :: rest) errs := by
  have herase : (P ++ r :: rest).eraseIdx P.length = P ++ rest := by
    rw [List.eraseIdx_append_of_length_le le_rfl, Nat.sub_self, List.eraseIdx_cons_zero]
  simp only [fromNodeLoop, List.getElem?_append_right le_rfl, Nat.sub_self,
    List.getElem?_cons_zero, herase, List.length_append, List.length_cons]
  have h₁ : (P.length + 1 = P.length + rest.length) = (rest.length = 1) := by
    simp only [eq_iff_iff]; omega
  have h₂ : (P.length + 1 = P.length + (rest.length + 1)) = (rest.length = 0) := by
    simp only [eq_iff_iff]; omega
  simp only [h₁, h₂]

/-- No entry left at the index: the next pass panics. -/
theorem fromNodeLoop_past_end (n : Nat) (P : List SubjectAndMessage) (errs : List ErrSend) :
    fromNodeLoop (n + 1) (P.length + 1) P errs = none := by
  simp [fromNodeLoop, List.getElem?_eq_none]

/-- `startupKept` keeps every entry with a `FromNode`, in order, and removes only entries
without one. -/
theorem startupKept_sublist (skipped : Bool) (R : List SubjectAndMessage) :
    ∀ {out}, startupKept skipped R = some out →
      (R.filter fun sm => sm.message.fromNode ≠ "").Sublist out ∧ out.Sublist R := by
  induction skipped, R using startupKept.induct with
  | case1 => simp [startupKept]
  | case2 skipped hs => simp [startupKept, hs]
  | case3 r hr => simp [startupKept, hr]
  | case4 skipped r hr hs => simp [startupKept, hr, hs]
  | case5 skipped r hr s more hm =>
    obtain rfl := List.isEmpty_iff.1 hm
    intro out h
    simp only [startupKept, hr, List.isEmpty_nil, ↓reduceIte, Option.some.injEq] at h
    subst h
    refine ⟨?_, (List.sublist_cons_self _ _)⟩
    rw [List.filter_cons_of_neg (by simp [hr])]
    exact List.filter_sublist _
  | case6 skipped r hr s more hm ih =>
    obtain ⟨t, more, rfl⟩ := List.exists_cons_of_ne_nil (mt List.isEmpty_iff.2 hm)
    intro out h
    simp only [startupKept, hr, List.isEmpty_cons, Bool.false_eq_true, ↓reduceIte,
      Option.map_eq_some'] at h
    obtain ⟨out', h', rfl⟩ := h
    obtain ⟨h₁, h₂⟩ := ih h'
    refine ⟨?_, (h₂.cons₂ s).cons r⟩
    rw [List.filter_cons_of_neg (by simp [hr]), List.filter_cons]
    split
    · exact h₁.cons₂ s
    · exact h₁.cons s
  | case7 skipped r rest hr hrest =>
    obtain rfl := List.isEmpty_iff.1 hrest
    simp [startupKept, hr]
  | case8 skipped r rest hr hrest ih =>
    obtain ⟨t, more, rfl⟩ := List.exists_cons_of_ne_nil (mt List.isEmpty_iff.2 hrest)
    intro out h
    simp only [startupKept, hr, List.isEmpty_cons, Bool.false_eq_true, ↓reduceIte,
      Option.map_eq_some'] at h
    obtain ⟨out', h', rfl⟩ := h
    obtain ⟨h₁, h₂⟩ := ih h'
    rw [List.filter_cons_of_pos (by simp [hr])]
    exact ⟨h₁.cons₂ r, h₂.cons₂ r⟩

/-- The errors a finished run leaves: one per removed entry. -/
def removedErrors (R out : List SubjectAndMessage) : List ErrSend :=
  List.replicate (R.length - out.length) missingFromError

/-- The filter loop, from the prefix `P` it has passed, with `n` passes left: it does what
`startupKept` says of the rest `R`, as long as the passes left cover the rest, with one to
spare exactly when an entry was stepped over. -/
theorem fromNodeLoop_eq (skipped : Bool) (R : List SubjectAndMessage) :
    ∀ (P : List SubjectAndMessage) (errs : List ErrSend) (n : Nat),
      R.length ≤ n → (skipped = true ↔ R.length < n) →
        fromNodeLoop n P.length (P ++ R) errs =
          (startupKept skipped R).map fun out => (P ++ out, errs ++ removedErrors R out) := by
  induction skipped, R using startupKept.induct with
  | case1 =>
    intro P errs n _ hs
    obtain ⟨k, rfl⟩ : ∃ k, n = k + 1 := ⟨n - 1, by simp at hs; omega⟩
    simp [fromNodeLoop, startupKept]
  | case2 skipped hsk =>
    intro P errs n _ hs
    obtain rfl : n = 0 := by simp [hsk] at hs; omega
    simp [fromNodeLoop, startupKept, hsk, removedErrors]
  | case3 r hr =>
    intro P errs n _ hs
    obtain ⟨k, rfl⟩ : ∃ k, n = k + 2 := ⟨n - 2, by simp at hs; omega⟩
    rw [fromNodeLoop_succ, List.append_nil]
    simp [hr, fromNodeLoop_past_end, startupKept]
  | case4 skipped r hr hsk =>
    intro P errs n h hs
    obtain rfl : n = 1 := by simp [hsk] at hs; simp at h; omega
    rw [fromNodeLoop_succ]
    simp [hr, fromNodeLoop, startupKept, hsk, removedErrors]
  | case5 skipped r hr s more hm =>
    obtain rfl := List.isEmpty_iff.1 hm
    intro P errs n h _
    obtain ⟨k, rfl⟩ : ∃ k, n = k + 1 := ⟨n - 1, by simp at h; omega⟩
    rw [fromNodeLoop_succ]
    simp [hr, startupKept, removedErrors]
  | case6 skipped r hr s more hm ih =>
    obtain ⟨t, more, rfl⟩ := List.exists_cons_of_ne_nil (mt List.isEmpty_iff.2 hm)
    intro P errs n h _
    obtain ⟨k, rfl⟩ : ∃ k, n = k + 1 := ⟨n - 1, by simp at h; omega⟩
    have ih := ih (P ++ [s]) (errs ++ [missingFromError]) k (by simp at h ⊢; omega)
      (by simp at h ⊢; omega)
    simp only [List.length_append, List.length_singleton, List.append_assoc,
      List.singleton_append] at ih
    rw [fromNodeLoop_succ, if_pos hr, if_neg (by simp), ih]
    simp only [startupKept, hr, List.isEmpty_cons, Bool.false_eq_true, ↓reduceIte]
    cases hk : startupKept true (t :: more) with
    | none => rfl
    | some out =>
      have := (startupKept_sublist true _ hk).2.length_le
      simp only [Option.map_some', List.append_assoc, List.singleton_append, removedErrors,
        Option.some.injEq, Prod.mk.injEq, true_and]
      rw [← List.replicate_succ]
      congr 1
      simp at this ⊢
      omega
  | case7 skipped r rest hr hrest =>
    obtain rfl := List.isEmpty_iff.1 hrest
    intro P errs n h _
    obtain ⟨k, rfl⟩ : ∃ k, n = k + 1 := ⟨n - 1, by simp at h; omega⟩
    rw [fromNodeLoop_succ]
    simp [hr, startupKept, removedErrors]
  | case8 skipped r rest hr hrest ih =>
    obtain ⟨t, more, rfl⟩ := List.exists_cons_of_ne_nil (mt List.isEmpty_iff.2 hrest)
    intro P errs n h hs
    obtain ⟨k, rfl⟩ : ∃ k, n = k + 1 := ⟨n - 1, by simp at h; omega⟩
    have ih := ih (P ++ [r]) errs k (by simp at h ⊢; omega) (by rw [hs]; simp)
    simp only [List.length_append, List.length_singleton, List.append_assoc,
      List.singleton_append] at ih
    rw [fromNodeLoop_succ, if_neg hr, if_neg (by simp), ih]
    simp only [startupKept, hr, List.isEmpty_cons, Bool.false_eq_true, ↓reduceIte]
    cases startupKept skipped (t :: more) <;> simp [removedErrors]

/-- The filter loop on a startup file's pairs is `startupKept` read from the start, with one
error per removed entry. -/
theorem fromNodeFilter_eq (sams : List SubjectAndMessage) :
    fromNodeFilter sams = (startupKept false sams).map fun out => (out, removedErrors sams out) :=
  fromNodeLoop_eq false sams [] [] sams.length le_rfl (by simp)

/-- Whenever the filter loop of `readStartupFolder` finishes, it has kept every startup
message with a `FromNode`, in their order, removed only messages without one, and sent one
error per removed message. -/
theorem fromNodeFilter_keeps {sams out : List SubjectAndMessage} {errs : List ErrSend}
    (h : fromNodeFilter sams = some (out, errs)) :
    (sams.filter fun sm => sm.message.fromNode ≠ "").Sublist out ∧ out.Sublist sams ∧
      errs = List.replicate (sams.length - out.length) missingFromError := by
  rw [fromNodeFilter_eq] at h
  obtain ⟨out', h', he⟩ := Option.map_eq_some'.1 h
  cases he
  exact ⟨(startupKept_sublist false sams h').1, (startupKept_sublist false sams h').2, rfl⟩

/-- A startup file whose first message has no `FromNode` and whose second comes from `ops`. -/
def opsStartup : List SubjectAndMessage :=
  [.zero, ⟨⟨"ship1", EventNACK, REQHello⟩, { Message.zero with fromNode := "ops" }⟩]

/-- On `opsStartup` the loop removes the first message, keeps the second and sends one
error. -/
theorem fromNodeFilter_opsStartup :
    fromNodeFilter opsStartup = some (opsStartup.drop 1, [missingFromError]) ∧
      (opsStartup.filter fun sm => sm.message.fromNode ≠ "").Sublist (opsStartup.drop 1) ∧
      (opsStartup.drop 1).Sublist opsStartup ∧
      [missingFromError] =
        List.replicate (opsStartup.length - (opsStartup.drop 1).length) missingFromError :=
  ⟨rfl, fromNodeFilter_keeps rfl⟩

end StartupLoop

/-! ### The dispatch loop -/

/-- One thing the dispatch loop of `readStartupFolder` does. -/
inductive StartupEffect where
  /-- `mh.handler(p, sams[i].Message, s.nodeName)`. -/
  | callHandler (h : MethodHandler) (message : Message)
  /-- `errorKernel.errSend(...)`. -/
  | errSend (e : ErrSend)

/-- The `FromNode` of a message a handler was called on. -/
def StartupEffect.calledFrom : StartupEffect → Option Node
  | .callHandler _ message => some message.fromNode
  | .errSend _ => none

/-- The dispatch loop of `readStartupFolder`: for each pair, the handler of its method in the
table of the subscriber process of its subject, or an error. `methodsOf` gives the table of
the process the registry holds under a name; a name it lacks gives the zero process, whose
table is empty. `run` is the error the handler returns. The `%v` of the subject's event in
the first error is not spelled out.

The error goes out through `p.errorKernel.errSend`. For a subject with no subscriber
registered, `p` is the zero process, whose `errorKernel` is nil, so the code calls
`errSend` on a nil `*errorKernel`. `errSend` is not part of the source given, and the model
records the call as an `errSend` effect like any other: that this call does not panic is
not shown here, and the statements below that say the loop does not panic are about the
`FromNode` filter loop only. -/
def readStartupFolder.dispatch (methodsOf : ProcessName → MethodsAvailable)
    (run : MethodHandler → Message → Option String) (sams : List SubjectAndMessage) :
    List StartupEffect :=
  sams.flatMap fun sm =>
    match (methodsOf (processNameGet sm.subject.name .subscriber)).checkIfExists
        sm.message.method with
    | none => [.errSend ⟨sm.message, "error: subscriberHandler: method type not available: "⟩]
    | some mh =>
      .callHandler mh sm.message ::
        match run mh sm.message with
        | some err =>
          [.errSend ⟨sm.message, "error: subscriberHandler: handler method failed: " ++ err⟩]
        | none => []

/-- `readStartupFolder` on the bytes of one startup file: trim, parse and check them, filter
out the messages without `FromNode`, and call the handlers. `none` is the panic of the
filter loop. -/
def readStartupFolder.file (unmarshal : List UInt8 → Except String (List Message))
    (methodsOf : ProcessName → MethodsAvailable)
    (run : MethodHandler → Message → Option String) (readBytes : List UInt8) :
    Option (List StartupEffect) :=
  match convertBytesToSAMs unmarshal (bytesTrimNul readBytes) with
  | .error err => some [.errSend ⟨Message.zero, "error: startup folder: malformed json read: " ++ err⟩]
  | .ok (sams, errs) =>
    (fromNodeFilter sams).map fun kept =>
      (errs ++ kept.2).map .errSend ++ dispatch methodsOf run kept.1

/-- What the inline function of `readStartupFolder` gets for one path: the file's bytes, or the
error of `os.Open` or of `io.ReadAll`. -/
inductive ReadFileResult where
  | ok (bytes : List UInt8)
  | openFailed (err : String)
  | readFailed (err : String)

/-- The inline function's result: the bytes, or the error it makes of a failed open or read. -/
def ReadFileResult.toExcept : ReadFileResult → Except String (List UInt8)
  | .ok b => .ok b
  | .openFailed err => .error ("error: failed to open file in startup folder: " ++ err)
  | .readFailed err => .error ("error: failed to read file in startup folder: " ++ err)

/-- The loop of `readStartupFolder` over the paths `getFilePaths` returned: a file that cannot be
read is reported to the error kernel and skipped, and a file whose filter loop panics ends the
program. -/
def readStartupFolder.files (unmarshal : List UInt8 → Except String (List Message))
    (methodsOf : ProcessName → MethodsAvailable)
    (run : MethodHandler → Message → Option String) (readFile : String → ReadFileResult) :
    List String → Option (List StartupEffect)
  | [] => some []
  | path :: paths =>
    match (readFile path).toExcept with
    | .error er =>
      (files unmarshal methodsOf run readFile paths).map (.errSend ⟨Message.zero, er⟩ :: ·)
    | .ok readBytes =>
      (file unmarshal methodsOf run readBytes).bind fun es =>
        (files unmarshal methodsOf run readFile paths).map (es ++ ·)

/-- `readStartupFolder`: the paths of the startup folder, or the error of `getFilePaths`, which
is reported and ends the function; then the loop over the files. -/
def readStartupFolder (unmarshal : List UInt8 → Except String (List Message))
    (methodsOf : ProcessName → MethodsAvailable)
    (run : MethodHandler → Message → Option String) (readFile : String → ReadFileResult) :
    Except String (List String) → Option (List StartupEffect)
  | .error err =>
    some [.errSend ⟨Message.zero, "error: readStartupFolder: unable to get filenames: " ++ err⟩]
  | .ok filePaths => readStartupFolder.files unmarshal methodsOf run readFile filePaths

/-- A startup message to `ship1` for `REQHello`, from `from`. -/
def helloFrom (fromNode : Node) : Message :=
  { Message.zero with toNode := "ship1", method := REQHello, fromNode := fromNode }

/-- Two startup files on `ship1`. In the first, two messages without `FromNode` lead; the
loop removes the first, steps over the second, and the hello handler runs on it. In the
second, the last message lacks `FromNode`; the loop removes it and then indexes past the
end. -/
theorem startupFolder_runs_handler_without_fromNode :
    (readStartupFolder.file (fun _ => .ok [helloFrom "", helloFrom "", helloFrom "ops"])
        (fun _ => getMethodsAvailable) (fun _ _ => none) []).map
        (·.filterMap StartupEffect.calledFrom) = some ["", "ops"] ∧
      (readStartupFolder.file (fun _ => .ok [helloFrom "", helloFrom "ops", helloFrom ""])
        (fun _ => getMethodsAvailable) (fun _ _ => none) []).isNone := by
  decide


/-! ### Startup files whose messages all have a `FromNode` -/

/-- What one startup file leads to when the `FromNode` filter removes nothing: the errors of
the conversion, then the dispatch of every pair. -/
def readStartupFolder.fileUnfiltered (unmarshal : List UInt8 → Except String (List Message))
    (methodsOf : ProcessName → MethodsAvailable)
    (run : MethodHandler → Message → Option String) (readBytes : List UInt8) :
    List StartupEffect :=
  match convertBytesToSAMs unmarshal (bytesTrimNul readBytes) with
  | .error err => [.errSend ⟨Message.zero, "error: startup folder: malformed json read: " ++ err⟩]
  | .ok (sams, errs) => errs.map .errSend ++ dispatch methodsOf run sams

/-- The startup folder when the `FromNode` filter removes nothing: file by file, the error of
reading it, or what `fileUnfiltered` says. -/
def readStartupFolder.filesUnfiltered (unmarshal : List UInt8 → Except String (List Message))
    (methodsOf : ProcessName → MethodsAvailable)
    (run : MethodHandler → Message → Option String) (readFile : String → ReadFileResult)
    (paths : List String) : List StartupEffect :=
  paths.flatMap fun path =>
    match (readFile path).toExcept with
    | .error er => [.errSend ⟨Message.zero, er⟩]
    | .ok readBytes => fileUnfiltered unmarshal methodsOf run readBytes

/-- Every message the parser reads from a startup file that can be read has a `FromNode`. -/
def FromNodeEverywhere (unmarshal : List UInt8 → Except String (List Message))
    (readFile : String → ReadFileResult) (paths : List String) : Prop :=
  ∀ path ∈ paths, ∀ readBytes, readFile path = .ok readBytes →
    ∀ msgs, unmarshal (bytesTrimNul readBytes) = .ok msgs → ∀ m ∈ msgs, m.fromNode ≠ ""

section AllFromNode

open readStartupFolder

/-- A list whose entries all have a `FromNode` is kept whole. -/
theorem startupKept_of_fromNode : ∀ {R : List SubjectAndMessage},
    (∀ sm ∈ R, sm.message.fromNode ≠ "") → startupKept false R = some R
  | [], _ => rfl
  | r :: rest, h => by
    have hr := h r (List.mem_cons_self _ _)
    have ih := startupKept_of_fromNode fun sm hm => h sm (List.mem_cons_of_mem _ hm)
    cases rest <;> simp [startupKept, hr, ih]

/-- When every pair has a `FromNode`, the filter loop does not panic and removes nothing. -/
theorem fromNodeFilter_of_fromNode {sams : List SubjectAndMessage}
    (h : ∀ sm ∈ sams, sm.message.fromNode ≠ "") : fromNodeFilter sams = some (sams, []) := by
  simp [fromNodeFilter_eq, startupKept_of_fromNode h, removedErrors]

/-- A message of the fan-out keeps the `FromNode` of the message fanned out. -/
theorem fromNode_of_mem_fanOut {v m : Message} (h : m ∈ fanOut v) :
    m.fromNode = v.fromNode := by
  unfold fanOut at h
  split at h
  · rw [List.mem_singleton.1 h]
  · obtain ⟨n, -, rfl⟩ := List.mem_map.1 h
    rfl

/-- The pair the spec keeps carries the message itself. -/
theorem message_of_targetSam {m : Message} {sm : SubjectAndMessage}
    (h : targetSam m = some sm) : sm.message = m := by
  unfold targetSam at h
  split at h
  · split at h
    · cases h
    · cases h
      rfl
  · cases h

/-- When `convertBytesToSAMs` succeeds, the parser succeeded, and every pair carries the
`FromNode` of a message it read. -/
theorem fromNode_of_convertBytesToSAMs {unmarshal : List UInt8 → Except String (List Message)}
    {b : List UInt8} {sams : List SubjectAndMessage} {errs : List ErrSend}
    (hc : convertBytesToSAMs unmarshal b = .ok (sams, errs)) :
    ∃ msgs, unmarshal b = .ok msgs ∧
      ∀ sm ∈ sams, ∃ m ∈ msgs, sm.message.fromNode = m.fromNode := by
  unfold convertBytesToSAMs at hc
  split at hc
  · cases hc
  · next msgs hu =>
    refine ⟨msgs, hu, fun sm hsm => ?_⟩
    have hs : (msgs.flatMap fanOut).filterMap targetSam = sams := by
      have := congrArg Prod.fst (Except.ok.inj hc)
      rwa [foldl_convertBytesToSAMs_fst, checkMessageToNodes, foldl_checkMessageToNodes_fst] at this
    rw [← hs] at hsm
    obtain ⟨m', hm', ht⟩ := List.mem_filterMap.1 hsm
    obtain ⟨m, hm, hf⟩ := List.mem_flatMap.1 hm'
    exact ⟨m, hm, by rw [message_of_targetSam ht, fromNode_of_mem_fanOut hf]⟩

variable (unmarshal : List UInt8 → Except String (List Message))
  (methodsOf : ProcessName → MethodsAvailable) (run : MethodHandler → Message → Option String)
  (readFile : String → ReadFileResult)

/-- One startup file whose messages all have a `FromNode`: every pair reaches the dispatch. -/
theorem file_of_fromNode {readBytes : List UInt8}
    (h : ∀ msgs, unmarshal (bytesTrimNul readBytes) = .ok msgs →
      ∀ m ∈ msgs, m.fromNode ≠ "") :
    file unmarshal methodsOf run readBytes =
      some (fileUnfiltered unmarshal methodsOf run readBytes) := by
  unfold file fileUnfiltered
  split
  · rfl
  · next sams errs hc =>
    obtain ⟨msgs, hu, hf⟩ := fromNode_of_convertBytesToSAMs hc
    have hs : ∀ sm ∈ sams, sm.message.fromNode ≠ "" := fun sm hsm => by
      obtain ⟨m, hm, he⟩ := hf sm hsm
      exact he ▸ h msgs hu m hm
    simp [fromNodeFilter_of_fromNode hs]

/-- The loop over the startup files, by induction on the paths, from `file_of_fromNode`. -/
theorem files_of_fromNode :
    ∀ {paths : List String}, FromNodeEverywhere unmarshal readFile paths →
      files unmarshal methodsOf run readFile paths =
        some (filesUnfiltered unmarshal methodsOf run readFile paths)
  | [], _ => rfl
  | path :: paths, h => by
    have ih := files_of_fromNode fun p hp => h p (List.mem_cons_of_mem _ hp)
    rw [files, filesUnfiltered, List.flatMap_cons, ← filesUnfiltered]
    cases hr : readFile path with
    | ok readBytes =>
      simp only [ReadFileResult.toExcept,
        file_of_fromNode unmarshal methodsOf run (h path (List.mem_cons_self _ _) readBytes hr),
        ih, Option.some_bind, Option.map_some']
    | openFailed err | readFailed err =>
      simp only [ReadFileResult.toExcept, ih, Option.map_some', List.singleton_append]

/-- With a `FromNode` on every startup message, the filter loop of no file panics and it
removes nothing: every pair of every readable file reaches the dispatch, file after file,
after the errors of the files that could not be read or parsed. (The dispatch's `errSend` on
the zero process of an unregistered subject is recorded, not shown safe: see
`readStartupFolder.dispatch`.) -/
theorem readStartupFolder_of_fromNode (paths : List String)
    (h : FromNodeEverywhere unmarshal readFile paths) :
    readStartupFolder unmarshal methodsOf run readFile (.ok paths) =
      some (filesUnfiltered unmarshal methodsOf run readFile paths) :=
  files_of_fromNode unmarshal methodsOf run readFile h

end AllFromNode

/-- A startup folder whose first file cannot be opened and whose second holds a message. -/
def opsFolder : String → ReadFileResult
  | "startup/denied.json" => .openFailed "permission denied"
  | _ => .ok []

/-- Reading `opsFolder` when the message comes from `ops`: the first file is reported, and the
hello handler runs on the message of the second. -/
theorem opsFolder_reads_every_message :
    FromNodeEverywhere (fun _ => .ok [helloFrom "ops"]) opsFolder
        ["startup/denied.json", "startup/hello.json"] ∧
      readStartupFolder (fun _ => .ok [helloFrom "ops"]) (fun _ => getMethodsAvailable)
          (fun _ _ => none) opsFolder (.ok ["startup/denied.json", "startup/hello.json"]) =
        some (readStartupFolder.filesUnfiltered (fun _ => .ok [helloFrom "ops"])
          (fun _ => getMethodsAvailable) (fun _ _ => none) opsFolder
          ["startup/denied.json", "startup/hello.json"]) :=
  have h : FromNodeEverywhere (fun _ => .ok [helloFrom "ops"]) opsFolder
      ["startup/denied.json", "startup/hello.json"] := fun _ _ _ _ msgs hu m hm => by
    cases hu
    obtain rfl := List.mem_singleton.1 hm
    decide
  ⟨h, readStartupFolder_of_fromNode _ _ _ _ _ h⟩

end Steward
