import Mathlib.Algebra.Group.Nat.Defs
import RunRadar.Config.Basic
import RunRadar.Proofs.Text.Url

/-!
# RunRadar.Proofs.Config.Address

**Which database an address designates.** The parts of the settings are put into the address as they
are. Whoever reads it by the syntax of URLs finds the settings again exactly if no part holds a mark
that ends it there, and none holds what looks like an escape (`address_designates_iff`). A slash in
a password is such a mark: it ends the authority, and what was to be the user is then a host.
-/

namespace RunRadar.DatabaseSettings

open Text

/-- The database that settings without an address of their own describe. -/
def endpoint (s : DatabaseSettings) : Url.Endpoint where
  user := s.user.getD "postgres"
  password := s.password.getD ""
  host := s.host
  port := s.port
  database := s.database

theorem read?_address {s : DatabaseSettings} (hurl : s.url = none) :
    Url.read? s.address =
      (Url.Parts.split (s.endpoint.parts.join ("sslmode=" ++ s.sslMode).toList)).decode? := by
  have haddress : s.address.toList = "postgres".toList ++ ':' :: '/' :: '/' ::
      s.endpoint.parts.join ("sslmode=" ++ s.sslMode).toList := by
    simp [address, hurl, Url.Parts.join_eq, Url.Endpoint.parts, endpoint]
  rw [Url.read?, haddress, Url.afterScheme?_append (by decide), Option.bind_some]

/-- **The address designates the database of the settings** exactly if user, password and name of
the database hold no mark that ends them, and no escape. -/
theorem address_designates_iff {s : DatabaseSettings} (hurl : s.url = none)
    (hhost : ∀ c ∈ s.host.toList, Url.inHost c) (hport : s.port < 2 ^ 16) :
    Url.read? s.address = some s.endpoint ↔
      s.endpoint.parts.Separable ∧ ¬ Url.HasEscape s.endpoint.user.toList ∧
        ¬ Url.HasEscape s.endpoint.password.toList ∧
          ¬ Url.HasEscape s.endpoint.database.toList := by
  rw [read?_address hurl]
  exact Url.decode?_split_join_iff hhost hport _

/-- Colons and at signs in a password do no harm, nor does a percent sign without digits. -/
theorem address_designates_marked_password :
    Url.read? (address { user := some "svc", password := some "p:w@100%", host := "db-1.local" }) =
      some ⟨"svc", "p:w@100%", "db-1.local", 5432, "radar"⟩ :=
  (address_designates_iff rfl (List.all_eq_true.mp (by decide)) (by decide)).mpr
    ⟨by decide, by decide, by decide, by decide⟩

/-- Not every address designates the database of the settings, however plain the host: behind a
slash in the password nothing is authority, so the user becomes a host, and digits in front of the
slash a port. -/
theorem password_with_slash_designates_other_host :
    ¬ ∀ s : DatabaseSettings, s.url = none →
      (∀ c ∈ s.host.toList, c.isAlphanum ∨ c = '.' ∨ c = '-') → s.port < 2 ^ 16 →
        Url.read? s.address = some s.endpoint := by
  intro h
  have hread := h { user := some "svc", password := some "1234/x", host := "db" } rfl
    (by simp) (by decide)
  have hother : Url.read?
      (address { user := some "svc", password := some "1234/x", host := "db" }) =
        some ⟨"", "", "svc", 1234, "x@db:5432/radar"⟩ := by decide +kernel
  exact absurd (hother.symm.trans hread) (by decide)

end RunRadar.DatabaseSettings
