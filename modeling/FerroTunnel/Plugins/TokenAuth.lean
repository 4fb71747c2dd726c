import FerroTunnel.Dashboard.Credentials

/-!
# The token plugin

`TokenAuthPlugin` lets a request through when the value of its header is one of the
configured tokens.  It compares the value with every one of them, without stopping at
the first that matches.

The core, the plugin and the dashboard each have a comparison of their own.  All three
read the shorter text as if it went on with zero bytes; that the lengths are compared
too makes them equality.
-/

namespace FerroTunnel.Plugins

open FerroTunnel.Tunnel
open FerroTunnel.Wire

/-- The answer of a comparison that takes the same time whatever it is. -/
abbrev Choice := Bool

/-- Compare two tokens to the end of the longer one. -/
def constantTimeTokenEq (expected presented : Bytes) : Choice :=
  (List.range (max expected.length presented.length)).foldl
    (fun same index => same && (expected.getD index 0 == presented.getD index 0))
    (expected.length == presented.length)

theorem constantTimeTokenEq_eq_true_iff (expected presented : Bytes) :
    constantTimeTokenEq expected presented = true ↔ expected = presented :=
  constantTimeEq_eq_true_iff expected presented

/-- The tokens that the plugin accepts. -/
structure TokenAuthPlugin where
  validTokens : List String
deriving DecidableEq

namespace TokenAuthPlugin

/-- Compare with every configured token. -/
def tokenMatches (plugin : TokenAuthPlugin) (presented : String) : Bool :=
  plugin.validTokens.foldl
    (fun same validToken => same || constantTimeTokenEq (asBytes validToken) (asBytes presented))
    false

/-! ## Which tokens match -/

theorem tokenMatches_eq_true_iff (plugin : TokenAuthPlugin) (presented : String) :
    plugin.tokenMatches presented = true ↔ presented ∈ plugin.validTokens := by
  rw [tokenMatches, Map.foldl_or_eq_true_iff]
  constructor
  · rintro (impossible | ⟨validToken, configured, same⟩)
    · cases impossible
    · have bytes := (constantTimeTokenEq_eq_true_iff _ _).mp same
      rw [← asBytes_injective bytes]
      exact configured
  · intro configured
    right
    exact ⟨presented, configured, (constantTimeTokenEq_eq_true_iff _ _).mpr rfl⟩

/-- The three comparisons are equality of byte strings, and the plugin accepts the
configured tokens and no others. -/
theorem comparisons_exact :
    (∀ a b : Bytes, Tunnel.constantTimeEq a b = true ↔ a = b) ∧
    (∀ expected presented : Bytes,
      constantTimeTokenEq expected presented = true ↔ expected = presented) ∧
    (∀ left right : Bytes, Dashboard.constantTimeEq left right = true ↔ left = right) ∧
    ∀ (plugin : TokenAuthPlugin) (presented : String),
      plugin.tokenMatches presented = true ↔ presented ∈ plugin.validTokens := by
  constructor
  · exact Tunnel.constantTimeEq_eq_true_iff
  constructor
  · exact constantTimeTokenEq_eq_true_iff
  constructor
  · exact Dashboard.constantTimeEq_eq_true_iff
  · exact tokenMatches_eq_true_iff

example : constantTimeTokenEq [115, 101, 99] [115, 101, 99, 0] = false := by decide

end TokenAuthPlugin

end FerroTunnel.Plugins
