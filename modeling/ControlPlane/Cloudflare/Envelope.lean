import ControlPlane.Channel.Basic
import ControlPlane.Json.Reader
/-!
The envelope around every answer of the control plane: whether the operation succeeded, its errors,
its result, and the place of a page. Members that an envelope leaves out have their defaults; a
result or page that is null counts as left out.
-/
namespace ControlPlane.Cloudflare

structure Envelope where
  success : Bool := false
  errors : List ApiError := []
  result : Option Json := none
  info : Option PageInfo := none

def errorRecord : Json.Record ApiError :=
  { name := "ApiErrorItem"
    start := {}
    fields :=
      [.of "code" .int64 fun code e => { e with code },
        .of "message" .string fun message e => { e with message }] }

def infoRecord : Json.Record PageInfo :=
  { name := "ResultInfo"
    start := {}
    fields :=
      [.of "page" .uint32 fun page i => { i with page },
        .of "per_page" .uint32 fun perPage i => { i with perPage },
        .of "total_pages" .uint32 fun totalPages i => { i with totalPages },
        .of "count" .uint32 fun count i => { i with count },
        .of "total_count" .uint32 fun totalCount i => { i with totalCount }] }

def envelopeRecord : Json.Record Envelope :=
  { name := "Envelope"
    start := {}
    fields :=
      [.of "success" .bool fun success e => { e with success },
        .of "errors" (.list errorRecord.read) fun errors e => { e with errors },
        .of "result" (.optional .any) fun result e => { e with result },
        .of "result_info" (.optional infoRecord.read) fun info e => { e with info }] }

def peerName : String := "cloudflare"

def unwrap (body : List UInt8) : Except Fault Content :=
  match Json.readText envelopeRecord.read body with
  | .error misfit => .error (.decode ("decode cloudflare envelope: " ++ misfit.message))
  | .ok envelope =>
    if envelope.success then .ok ⟨envelope.result, envelope.info⟩
    else .error (.api peerName envelope.errors)

end ControlPlane.Cloudflare
