import RegisterGateway.Net.Serving
import RegisterGateway.RawIngest.Frame
import RegisterGateway.Text.Blank

/-!
# Ingest connections

The frames of a connection are applied in order and each is acknowledged by one byte. The
first frame that cannot be read or applied is answered by the other byte and ends the
connection; nothing of it or after it is applied. A peer that closes, or falls silent for
longer than the read timeout, ends the connection as well.
-/

namespace RegisterGateway.RawIngest

open Net (Served)

/-- The settings of the ingest listener. -/
structure ListenerSettings where
  listen : String
  maxPacketBytes : Nat
  readTimeoutMs : Nat
  deriving DecidableEq, Repr

/-- Why a listener cannot be made. -/
inductive SettingsError where
  | emptyListen
  | packetTooSmall
  | zeroTimeout
  deriving DecidableEq, Repr

def SettingsError.message : SettingsError → String
  | .emptyListen => "config error: raw ingest listen address is empty"
  | .packetTooSmall =>
      let size := Header.byteCount
      s!"config error: raw ingest max_packet_bytes must exceed {size}"
  | .zeroTimeout => "config error: raw ingest read timeout must be positive"

/-- Accepts settings with a listen address, room for a payload and a positive timeout; the
first fault in this order counts. -/
def ListenerSettings.check (settings : ListenerSettings) : Except SettingsError Unit :=
  if Text.isAllBlank settings.listen then .error .emptyListen
  else if settings.maxPacketBytes ≤ Header.byteCount then .error .packetTooSmall
  else if settings.readTimeoutMs = 0 then .error .zeroTimeout
  else .ok ()

/-- The byte that acknowledges an applied frame. -/
def acknowledged : UInt8 := 0x00

/-- The byte that reports a rejected frame. -/
def refused : UInt8 := 0x01

/-- The end of a connection by a rejection. -/
def reject (plant : Plant) : Served :=
  ⟨[refused], plant.record .rawIngestRejected, [], false⟩

/-- Applies every complete frame of some bytes, up to the first failure. -/
def serve (limit : Nat) (bytes : List UInt8) (plant : Plant) : Served :=
  match taken : cut limit bytes with
  | .frame frame rest =>
      have : rest.length < bytes.length := length_rest_of_cut taken
      match apply plant.registry frame with
      | .error _ => reject plant
      | .ok registry =>
        (serve limit rest ((plant.withRegistry registry).record .rawIngestFrame)).behind
          [acknowledged]
  | .incomplete => ⟨[], plant, bytes, true⟩
  | .rejected .. => reject plant
termination_by bytes.length

/-- The peer closes: bytes that still wait are a truncated frame. -/
def close (waiting : List UInt8) (plant : Plant) : Served :=
  if waiting.isEmpty then .ended plant else reject plant

/-- A stream of bytes after which the peer closes. -/
def serveToEnd (limit : Nat) (bytes : List UInt8) (plant : Plant) : Served :=
  (serve limit bytes plant).andThen close

end RegisterGateway.RawIngest
