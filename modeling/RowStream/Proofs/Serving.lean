import RowStream.Settings

/-!
# Servers that can be asked over HTTP

A URL that was read and has the scheme `http` or `https` has a host and a path
(`served_of_parse`), and so has every server that the settings name (`served_of_read`).  So a client
can be made of them, and it has endpoints.
-/

set_option autoImplicit false

namespace RowStream

namespace Url

structure Served (url : Url) : Prop where
  hosted : url.hasHost
  pathed : ∃ components, url.path = .segments components

namespace Parse

theorem ok_of_bind {α β ε : Type} {first : Except ε α} {next : α → Except ε β} {result : β}
    (succeeds : first >>= next = .ok result) :
    ∃ value, first = .ok value ∧ next value = .ok result := by
  cases first with
  | error error => cases succeeds
  | ok value => exact ⟨value, rfl, succeeds⟩

theorem hosted_of_bracketHost {text : List Char} {host : Host}
    (read : bracketHost text = .ok host) : host ≠ .empty := by
  unfold bracketHost at read
  split at read
  · split at read
    · cases read
      exact Host.noConfusion
    · cases read
  · cases read

theorem hosted_of_namedHost {text : List Char} {host : Host}
    (read : namedHost text = .ok host) : host ≠ .empty := by
  unfold namedHost at read
  split at read
  · exact hosted_of_bracketHost read
  · split at read
    · cases read
    · split at read
      · cases read
      · split at read
        · split at read
          · cases read
            exact Host.noConfusion
          · cases read
        · cases read
          exact Host.noConfusion

theorem authority_spec {scheme : String} {followed : Bool} {text : List Char} {url : Url}
    (read : authority scheme followed text = .ok url) :
    url.scheme = scheme ∧ (isSpecial scheme → ∃ host, url.host = some host ∧ host ≠ .empty) := by
  simp only [authority] at read
  split at read
  · cases read
  · split at read
    · cases read
    · split at read
      · obtain ⟨host, named, read⟩ := ok_of_bind read
        obtain ⟨port, _, read⟩ := ok_of_bind read
        cases read
        exact ⟨rfl, fun _ => ⟨host, rfl, hosted_of_namedHost named⟩⟩
      · rename_i notSpecial
        obtain ⟨host, _, read⟩ := ok_of_bind read
        obtain ⟨port, _, read⟩ := ok_of_bind read
        cases read
        exact ⟨rfl, fun special => absurd special notSpecial⟩

theorem hasHost_of_host {url : Url} {host : Host} (host_eq : url.host = some host)
    (notEmpty : host ≠ .empty) : url.hasHost := by
  rw [hasHost, host_eq]
  cases host with
  | empty => exact absurd rfl notEmpty
  | domain name => rfl
  | ipv4 address => rfl
  | ipv6 groups => rfl

theorem afterSlashes_spec {scheme : String} {chars : List Char} {url : Url}
    (read : afterSlashes scheme chars = .ok url) :
    url.scheme = scheme ∧ (isSpecial scheme → Served url) := by
  obtain ⟨server, named, read⟩ := ok_of_bind read
  obtain ⟨scheme_eq, hosts⟩ := authority_spec named
  cases read
  refine ⟨scheme_eq, fun special => ⟨?_, _, rfl⟩⟩
  obtain ⟨host, host_eq, notEmpty⟩ := hosts special
  exact hasHost_of_host host_eq notEmpty

theorem scheme_withoutAuthority (scheme : String) (chars : List Char) :
    (withoutAuthority scheme chars).scheme = scheme := by
  unfold withoutAuthority
  split <;> rfl

theorem scheme_file {chars : List Char} {url : Url} (read : file chars = .ok url) :
    url.scheme = "file" := by
  simp only [file] at read
  split at read
  · split at read
    · split at read
      · cases read
        rfl
      · obtain ⟨host, _, read⟩ := ok_of_bind read
        split at read <;>
          · cases read
            rfl
    · cases read
      rfl
  · cases read
    rfl

end Parse

theorem isSpecial_of_web {scheme : String} (web : scheme = "http" ∨ scheme = "https") :
    isSpecial scheme := by
  rcases web with rfl | rfl <;> decide

theorem afterSlashes_of_parse {text : String} {url : Url} (read : parse text = .ok url)
    (web : url.scheme = "http" ∨ url.scheme = "https") :
    ∃ chars, Parse.afterSlashes url.scheme chars = .ok url := by
  have special := isSpecial_of_web web
  unfold parse at read
  split at read
  · cases read
  · rename_i scheme rest _
    split at read
    · have scheme_eq := Parse.scheme_file read
      rw [scheme_eq] at web
      exact absurd web (by decide)
    · split at read
      · obtain ⟨rfl, _⟩ := Parse.afterSlashes_spec read
        exact ⟨_, read⟩
      · rename_i notSpecial
        split at read
        · obtain ⟨rfl, _⟩ := Parse.afterSlashes_spec read
          exact absurd special notSpecial
        · cases read
          rw [Parse.scheme_withoutAuthority] at special
          exact absurd special notSpecial

theorem served_of_parse {text : String} {url : Url} (read : parse text = .ok url)
    (web : url.scheme = "http" ∨ url.scheme = "https") : Served url := by
  obtain ⟨chars, behind⟩ := afterSlashes_of_parse read web
  exact (Parse.afterSlashes_spec behind).2 (isSpecial_of_web web)

end Url

namespace Settings

open Url.Parse (ok_of_bind)

/-- A server that the environment names, or the one that is expected on this machine. -/
theorem served_of_read {environment : Environment} {settings : Settings}
    (configured : read environment = .ok settings)
    (web : settings.serverUrl.scheme = "http" ∨ settings.serverUrl.scheme = "https") :
    settings.serverUrl.Served := by
  obtain ⟨serverUrl, server_eq, configured⟩ := ok_of_bind configured
  obtain ⟨_, _, configured⟩ := ok_of_bind configured
  obtain ⟨_, _, configured⟩ := ok_of_bind configured
  obtain ⟨_, _, configured⟩ := ok_of_bind configured
  cases configured
  unfold serverUrlOf at server_eq
  split at server_eq
  · rename_i raw _
    cases parsed : Url.parse (Text.trim raw) with
    | error error =>
        rw [parsed] at server_eq
        cases server_eq
    | ok url =>
        rw [parsed] at server_eq
        cases server_eq
        exact Url.served_of_parse parsed web
  · cases server_eq
    exact ⟨rfl, _, rfl⟩

end Settings

end RowStream
