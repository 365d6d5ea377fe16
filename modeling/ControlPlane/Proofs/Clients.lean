import ControlPlane.Cloudflare.Client
import ControlPlane.Vault.Client
/-!
What a client is made of: the address it connects to, the retries of its settings, and the way its
peer unwraps a body.
-/
namespace ControlPlane

structure Channel.MadeOf (channel : Channel) (unwrap : List UInt8 → Except Fault Content)
    (address : String) (settings : Settings) : Prop where
  unwraps : channel.peer.unwrap = unwrap
  base : readBase address = .ok channel.base
  retries : channel.policy.budget = settings.retries

theorem Channel.madeOf_of_make {peer : Peer} {address : String} {settings : Settings}
    {channel : Channel} (made : make peer address settings = .ok channel) :
    channel.MadeOf peer.unwrap address settings := by
  unfold make at made
  cases read : readBase address with
  | error fault => simp only [read, Except.map, reduceCtorEq] at made
  | ok base =>
    simp only [read, Except.map, Except.ok.injEq] at made
    subst made
    exact ⟨rfl, read, rfl⟩

theorem Channel.peer_of_make {peer : Peer} {address : String} {settings : Settings}
    {channel : Channel} (made : make peer address settings = .ok channel) :
    channel.peer = peer := by
  unfold make at made
  cases read : readBase address with
  | error fault => simp only [read, Except.map, reduceCtorEq] at made
  | ok base =>
    simp only [read, Except.map, Except.ok.injEq] at made
    rw [← made]

theorem Channel.make_of_readBase {address : String} {base : Url}
    (read : readBase address = .ok base) (peer : Peer) (settings : Settings) :
    ∃ channel, make peer address settings = .ok channel ∧ channel.base = base := by
  rw [make, read]
  exact ⟨_, rfl, rfl⟩

theorem exists_of_readBase {address : String} {base : Url} (read : readBase address = .ok base) :
    ∃ text, Url.parse text = .ok base := by
  unfold readBase at read
  dsimp only at read
  split at read
  · simp only [reduceCtorEq] at read
  · refine ⟨Text.dropEndWhile (· = '/') (Text.trim address.toList), ?_⟩
    split at read
    · rename_i url parsed
      rw [parsed, Except.ok.inj read]
    · simp only [reduceCtorEq] at read

theorem Cloudflare.exists_of_peer {token : String} {found : Peer} (made : peer token = .ok found) :
    ∃ value, found = ⟨peerName, [⟨"authorization", value, true⟩], Cloudflare.unwrap⟩ := by
  simp only [peer] at made
  split at made
  · simp only [reduceCtorEq] at made
  · cases written : Http.headerValue? ("Bearer " ++ Text.trimmed token) with
    | none => simp only [written, reduceCtorEq] at made
    | some value =>
      simp only [written, Except.ok.injEq] at made
      exact ⟨value, made.symm⟩

theorem Cloudflare.Client.exists_make {client : Client} {address token : String}
    {settings : Settings} (connected : connect address token settings = .ok client) :
    ∃ value, Channel.make ⟨peerName, [⟨"authorization", value, true⟩], Cloudflare.unwrap⟩ address
      settings = .ok client.channel := by
  simp only [connect, bind, Except.bind, pure, Except.pure] at connected
  cases authenticated : peer token with
  | error fault => simp only [authenticated, reduceCtorEq] at connected
  | ok found =>
    obtain ⟨value, rfl⟩ := exists_of_peer authenticated
    refine ⟨value, ?_⟩
    cases opened : Channel.make ⟨peerName, [⟨"authorization", value, true⟩], Cloudflare.unwrap⟩
      address settings with
    | error fault => simp only [authenticated, opened, reduceCtorEq] at connected
    | ok channel =>
      simp only [authenticated, opened, Except.ok.injEq] at connected
      rw [← connected]

theorem Vault.Client.exists_make {client : Client} {address token : String} {settings : Settings}
    (connected : connect address token settings = .ok client) :
    ∃ value, Channel.make (peer value) address settings = .ok client.channel := by
  simp only [connect] at connected
  split at connected
  · simp only [reduceCtorEq] at connected
  · split at connected
    · simp only [reduceCtorEq] at connected
    · cases written : Http.headerValue? (Text.trimmed token) with
      | none => simp only [written, reduceCtorEq] at connected
      | some value =>
        refine ⟨value, ?_⟩
        cases opened : Channel.make (peer value) address settings with
        | error fault => simp only [written, opened, Except.map, reduceCtorEq] at connected
        | ok channel =>
          simp only [written, opened, Except.map, Except.ok.injEq] at connected
          rw [← connected]

theorem Cloudflare.Client.madeOf {client : Client} {address token : String} {settings : Settings}
    (connected : connect address token settings = .ok client) :
    client.channel.MadeOf Cloudflare.unwrap address settings := by
  obtain ⟨value, opened⟩ := exists_make connected
  exact Channel.madeOf_of_make opened

theorem Vault.Client.madeOf {client : Client} {address token : String} {settings : Settings}
    (connected : connect address token settings = .ok client) :
    client.channel.MadeOf Vault.unwrap address settings := by
  obtain ⟨value, opened⟩ := exists_make connected
  exact Channel.madeOf_of_make opened

theorem Cloudflare.Client.connect_of_readBase {address token : String} {base : Url}
    {value : List UInt8} (filled : (Text.trimmed token).isEmpty = false)
    (written : Http.headerValue? ("Bearer " ++ Text.trimmed token) = some value)
    (read : readBase address = .ok base) (settings : Settings) :
    ∃ client, connect address token settings = .ok client := by
  simp [connect, peer, filled, written, Channel.make, read, Except.map, bind, Except.bind, pure,
    Except.pure]

theorem Vault.Client.connect_of_readBase {address token : String} {base : Url}
    {value : List UInt8} (named : Text.blank address = false)
    (filled : (Text.trimmed token).isEmpty = false)
    (written : Http.headerValue? (Text.trimmed token) = some value)
    (read : readBase address = .ok base) (settings : Settings) :
    ∃ client, connect address token settings = .ok client := by
  simp [connect, named, filled, written, Channel.make, read, Except.map]

theorem exists_local_base : ∃ base, readBase "http://127.0.0.1:8200" = .ok base := by
  have placed : (readBase "http://127.0.0.1:8200").toOption.isSome = true := by decide +kernel
  cases read : readBase "http://127.0.0.1:8200" with
  | error fault =>
    rw [read] at placed
    contradiction
  | ok base => exact ⟨base, rfl⟩

theorem web_of_local {base : Url} (read : readBase "http://127.0.0.1:8200" = .ok base) :
    base.kind = .web := by
  have kinds : (readBase "http://127.0.0.1:8200").toOption.map Url.kind = some .web := by
    decide +kernel
  rw [read] at kinds
  exact Option.some.inj kinds

namespace Cloudflare.Client

theorem exists_local_client :
    ∃ client : Client, connect "http://127.0.0.1:8200" "t" {} = .ok client ∧
      readBase "http://127.0.0.1:8200" = .ok client.channel.base := by
  obtain ⟨base, read⟩ := exists_local_base
  have bearer : Http.headerValue? ("Bearer " ++ Text.trimmed "t") =
      some (Text.utf8 "Bearer t".toList) := by decide +kernel
  obtain ⟨client, connected⟩ := connect_of_readBase (by decide +kernel) bearer read {}
  exact ⟨client, connected, (madeOf connected).base⟩

end Cloudflare.Client

namespace Vault

theorem secretPath_eq_ok {mount path endpoint : String}
    (found : (secretPath mount path).toOption = some endpoint) :
    secretPath mount path = .ok endpoint := by
  cases placed : secretPath mount path with
  | error fault =>
    rw [placed] at found
    contradiction
  | ok other =>
    rw [placed] at found
    rw [Option.some.inj found]

theorem exists_local_client :
    ∃ client : Client, Client.connect "http://127.0.0.1:8200" "t" {} = .ok client ∧
      readBase "http://127.0.0.1:8200" = .ok client.channel.base := by
  obtain ⟨base, read⟩ := exists_local_base
  have value : Http.headerValue? (Text.trimmed "t") = some (Text.utf8 ['t']) := by decide +kernel
  obtain ⟨client, connected⟩ :=
    Client.connect_of_readBase (by decide +kernel) (by decide +kernel) value read {}
  exact ⟨client, connected, (Client.madeOf connected).base⟩

end Vault

end ControlPlane
