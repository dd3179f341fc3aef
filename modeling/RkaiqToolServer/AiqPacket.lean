import RkaiqToolServer.FileTransfer
import RkaiqToolServer.MessageForward

/-!
# Packets of the tuning service

A request to the service and its answer are packets of one shape: a mark, the
size of the packet, the command, a result, the size of the data, the data and
their hash.  `RkAiqSocketClientINETSend` builds the packet and sends it in one
piece; `RkAiqSocketClientINETReceive` reads the first six bytes of the answer,
collects the rest in a loop of `int` arithmetic, and parses the block field by
field.  What is written is what is read back, whatever the chunks it arrives
in.
-/

namespace RkaiqToolServer

open ByteCodec

def aiqMagic : List UInt8 := ascii "RK"

/-- `RkAiqSocketData`; the pointer `data` is the bytes it points to. -/
structure RkAiqSocketData where
  packetSize : BitVec 32
  commandID : BitVec 32
  commandResult : BitVec 32
  dataSize : BitVec 32
  data : List UInt8
  dataHash : BitVec 32
  deriving DecidableEq

def RkAiqSocketData.body (packet : RkAiqSocketData) : List UInt8 :=
  leBytes 4 packet.commandID.toNat ++ (leBytes 4 packet.commandResult.toNat ++
    (leBytes 4 packet.dataSize.toNat ++ (packet.data ++
      leBytes 4 packet.dataHash.toNat)))

def RkAiqSocketData.dataToSend (packet : RkAiqSocketData) : List UInt8 :=
  (aiqMagic ++ leBytes 4 packet.packetSize.toNat) ++ packet.body

/-- The packet for `dataSize` bytes of data.  `sizeof(packetData)` without its
pointer is 22, and the hash takes the size as an `int`. -/
def aiqPacket (commandID : BitVec 32) (data : List UInt8) :
    RkAiqSocketData where
  packetSize := BitVec.ofNat 32 (22 + data.length)
  commandID := commandID
  commandResult := BitVec.ofInt 32 (-1)
  dataSize := BitVec.ofNat 32 data.length
  data := data
  dataHash := murMurHash data (signed 32 (data.length % 2 ^ 32))

/-- The send of a packet and the value returned; 1 comes with the mode reset
to `APP_RUN_STATUS_INIT`. -/
def rkAiqSocketClientINETSend
    (client : DomainTCPClient) (errno : ℕ) (commandID : BitVec 32)
    (data : List UInt8) (calls : ForwardCalls) : AiqSend × ℤ :=
  let sent := sendToAiq client errno (aiqPacket commandID data).dataToSend
    calls
  (sent, if sent.failed then 1 else 0)

/-! ## Receiving -/

inductive AiqRecv
  | received (bytes : List UInt8)
  | failed
  | noSocket
  deriving DecidableEq

/-- `DomainTCPClient::Receive(buff, size)`: the bytes it writes to the buffer,
which it clears first, and what it returns. -/
def AiqRecv.receive (recv : AiqRecv) (size : ℕ) : List UInt8 × ℤ :=
  match recv with
  | .received bytes =>
      (padded size (bytes.take size), ((bytes.take size).length : ℤ))
  | .failed => (padded size [], -1)
  | .noSocket => ([], -1)

structure AiqArrival where
  currentTime : ℤ
  recv : AiqRecv

def aiqReceiveLoop (startTime : ℤ) (packetSize : ℕ) :
    List AiqArrival → List UInt8 → ℤ → Reassembly
  | [], receivedPacket, remainSize =>
      if remainSize > 0 then .waiting else .complete receivedPacket
  | arrival :: arrivals, receivedPacket, remainSize =>
      if remainSize > 0 then
        if arrival.currentTime - startTime ≥ 2 then .timeout
        else
          let offset := wrapInt (packetSize - remainSize)
          let targetSize := min remainSize.toNat maxPacketSize
          let received := arrival.recv.receive targetSize
          -- a failed receive counts as -1 byte and moves the offset back
          let left := remainSize - received.2
          if (offset < 0 ∧ arrival.recv ≠ .noSocket) ∨ 2 ^ 31 ≤ left then
            .fault
          else
            aiqReceiveLoop startTime packetSize arrivals
              (overlay offset.toNat received.1 receivedPacket) left
      else .complete receivedPacket

def wordAt (offset : ℕ) (bytes : List UInt8) : BitVec 32 :=
  dataWord (slice offset 4 bytes)

/-- The copies out of the received block and the memory that follows it.  The
offset is an `int`; when the data take it past that, the hash is read before
the block. -/
def RkAiqSocketData.parse (memory : List UInt8) : Option RkAiqSocketData :=
  let dataSize := wordAt 14 memory
  if 18 + dataSize.toNat + 4 ≤ memory.length ∧
      18 + dataSize.toNat < 2 ^ 31 then
    some
      { packetSize := wordAt 2 memory
        commandID := wordAt 6 memory
        commandResult := wordAt 10 memory
        dataSize := dataSize
        data := slice 18 dataSize.toNat memory
        dataHash := wordAt (18 + dataSize.toNat) memory }
  else none

/-- How `RkAiqSocketClientINETReceive` ends: with a value and, on success, the
parsed packet whose data were copied to the caller. -/
inductive AiqReceive
  | returned (ret : ℤ) (receivedData : Option RkAiqSocketData)
  | waiting
  | fault
  deriving DecidableEq

/-- The checks after the parse; a wrong hash is only logged. -/
def aiqCheckPacket (heap : List UInt8) (dataSize : BitVec 32)
    (receivedPacket : List UInt8) : AiqReceive :=
  match RkAiqSocketData.parse (receivedPacket ++ heap) with
  | none => .fault
  | some receivedData =>
      if receivedData.dataSize ≠ dataSize then .returned 1 none
      else .returned 0 (some receivedData)

/-- `RkAiqSocketClientINETReceive` after its request: `header` is the first
receive, of six bytes, and `heap` the readable bytes behind the block. -/
def rkAiqSocketClientINETReceive (startTime : ℤ) (heap : List UInt8)
    (dataSize : BitVec 32) (header : AiqRecv) (arrivals : List AiqArrival) :
    AiqReceive :=
  let tmpStr := overlay 0 (header.receive 6).1 (List.replicate 6 0)
  if tmpStr.take 2 ≠ aiqMagic then .returned 1 none
  else
    let packetSize := wordAt 2 tmpStr
    if packetSize = 0 ∨ (packetSize - dataSize).toNat > 200 then
      .returned 1 none
    else if packetSize.toNat < 6 then .fault
    else
      let receivedPacket :=
        overlay 0 tmpStr (List.replicate packetSize.toNat 0)
      match aiqReceiveLoop startTime packetSize.toNat arrivals receivedPacket
          (signed 32 (packetSize - 6).toNat) with
      | .complete receivedPacket => aiqCheckPacket heap dataSize receivedPacket
      | .timeout => .returned 1 none
      | .waiting => .waiting
      | .fault => .fault

end RkaiqToolServer
