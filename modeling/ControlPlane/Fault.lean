import ControlPlane.Text.Basic
/-!
What can go wrong with a client and its operations. A fault is transient if the same operation could
succeed when it is tried again: no response arrived, or the response has a status that asks for
another try. Everything else is final.
-/
namespace ControlPlane

structure ApiError where
  code : Int := 0
  message : String := ""
deriving DecidableEq

def ApiError.text (e : ApiError) : String :=
  if e.code = 0 then e.message else toString e.code ++ ":" ++ e.message

def ApiError.describe (errors : List ApiError) : String :=
  if errors.isEmpty then "unknown API error" else ", ".intercalate (errors.map ApiError.text)

def asksForRetry (status : Nat) : Bool :=
  status = 408 || status = 429 || (500 ≤ status && status ≤ 599)

inductive Fault where
  | config (text : String)
  | validation (text : String)
  | region (name : String)
  | transport (provider source : String)
  | status (provider : String) (code : Nat) (body : String)
  | api (provider : String) (errors : List ApiError)
  | notFound (resource name : String)
  | cancelled
  | encode (text : String)
  | decode (text : String)
deriving DecidableEq

namespace Fault

def message : Fault → String
  | .config text => "configuration error: " ++ text
  | .validation text => "validation error: " ++ text
  | .region name => "invalid aws region: " ++ name
  | .transport provider source => provider ++ " request failed: " ++ source
  | .status provider code body =>
    provider ++ " request failed with status " ++ toString code ++ ": " ++ body
  | .api provider errors =>
    provider ++ " API returned unsuccessful response: " ++ ApiError.describe errors
  | .notFound resource name => resource ++ " not found: " ++ name
  | .cancelled => "operation cancelled"
  | .encode text => "encode error: " ++ text
  | .decode text => "decode error: " ++ text

def statusCode : Fault → Option Nat
  | .status _ code _ => some code
  | _ => none

def mayPass : Fault → Bool
  | .transport _ _ => true
  | .status _ code _ => asksForRetry code
  | _ => false

def isNotFound : Fault → Bool
  | .notFound _ _ => true
  | _ => false

def isCancelled : Fault → Bool
  | .cancelled => true
  | _ => false

end Fault

end ControlPlane
