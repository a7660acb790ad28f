import CsiOperator.Asset
import CsiOperator.Descriptor.Validation
import CsiOperator.Proofs.File.Below

/-! Assets whose names do not climb out of their folder come from files below it, and from nowhere else. -/

namespace CsiOperator.AssetSource

open File (System decodeText isAbsolute leadsDown names stays)

/-- A text of an asset is what is read along the joined path. -/
theorem ofFolder_ok_iff (s : System) (folder name text : String) :
    ofFolder s folder name = .ok text ↔ s.readText (File.join folder name) = .ok text := by
  -- A failure is worded anew and a text is not, so each of them stays what it was.
  simp only [ofFolder]
  cases s.readText (File.join folder name) <;> simp

/--
An asset whose name does not climb out of the folder is a file below it, and nothing else counts.

The folder is where its path leads, and the links that are followed from there lead further down, which
leaves all other links open. Another system that has the same below the folder gives the same texts and
the same failures.
-/
theorem assets_within_folder (s : System) (folder name : String)
    (relative : isAbsolute name = false) (within : stays 0 (names name) = true)
    (down : ∀ left base, s.lead folder = .ok (left, base) →
      ∀ target ∈ s.followed left base (names name), leadsDown target = true) :
    -- A text that is loaded stands in a file below the folder.
    (∀ text, ofFolder s folder name = .ok text → ∃ left base below bytes,
      s.lead folder = .ok (left, base) ∧ below ≠ [] ∧
      s.entryAt (base ++ below) = some (.file bytes) ∧ decodeText bytes = .ok text) ∧
    -- What is loaded does not depend on anything else.
    ∀ t : System, t.lead folder = s.lead folder →
      (∀ left base, s.lead folder = .ok (left, base) → s.AgreeBelow t base) →
      ofFolder t folder name = ofFolder s folder name := by
  -- Both halves go back to one walk from the folder, which never leaves what is below it.
  constructor
  · intro text loads
    obtain ⟨left, place, bytes, led, found, decodes⟩ :=
      System.exists_of_readText ((ofFolder_ok_iff s folder name text).mp loads)
    rw [System.lead_join s folder relative] at led
    obtain ⟨⟨links, base⟩, begins, led⟩ := (Failure.bind_ok_iff _ _ _).mp led
    have agree : s.AgreeBelow s base := fun _ => rfl
    have links_down := down links base begins
    rw [← List.append_nil base] at links_down
    obtain ⟨-, leads⟩ := System.follow_below agree links (names name) [] links_down within
    rw [List.append_nil] at leads
    obtain ⟨below, rfl⟩ := leads left place led
    refine ⟨links, base, below, bytes, begins, ?_, found, decodes⟩
    -- The folder itself is no file, since the name goes on from there.
    rintro rfl
    have inside := System.folder_of_lead (File.names_ne_nil relative) led
    rw [List.append_nil, inside] at found
    cases found
  · intro t same agree
    have leads : ∀ links base, s.lead folder = .ok (links, base) →
        t.follow links base (names name) = s.follow links base (names name) ∧
          ∀ left place, s.follow links base (names name) = .ok (left, place) → base <+: place := by
      intro links base begins
      have links_down := down links base begins
      rw [← List.append_nil base] at links_down
      have led := System.follow_below (agree links base begins) links (names name) [] links_down
        within
      rwa [List.append_nil] at led
    have joined : t.lead (File.join folder name) = s.lead (File.join folder name) := by
      rw [System.lead_join t folder relative, System.lead_join s folder relative, same]
      cases begins : s.lead folder with
      | error fault => rfl
      | ok reached => exact (leads reached.1 reached.2 begins).1
    have read : t.readText (File.join folder name) = s.readText (File.join folder name) := by
      refine System.readText_congr joined fun left place led => ?_
      rw [System.lead_join s folder relative] at led
      obtain ⟨⟨links, base⟩, begins, led⟩ := (Failure.bind_ok_iff _ _ _).mp led
      obtain ⟨below, rfl⟩ := (leads links base begins).2 left place led
      exact agree links base begins below
    rw [ofFolder, ofFolder, read]

/-- A folder of links to the current version of an asset, and one that leads out of the folder. -/
def mounted : System where
  -- The version is reached through two links, of which the first is the asset's own.
  files := [(["manifests", "..version", "sa.yaml"], "kind: ServiceAccount".toUTF8.toList)]
  here := []
  folders := [["manifests", "drivers"]]
  links := [(["manifests", "..data"], "..version"), (["manifests", "sa.yaml"], "..data/sa.yaml"),
    (["manifests", "key"], "/secret/key")]

/-- An asset is found through links and through another folder, whatever there is elsewhere, and wherever
a link leads that does not stand on the way. -/
theorem assets_within_folder_mounted :
    let t : System := { mounted with files := mounted.files ++ [(["sa.yaml"], [])] }
    ofFolder mounted "/manifests" "drivers/../sa.yaml" = .ok "kind: ServiceAccount" ∧
      ofFolder t "/manifests" "drivers/../sa.yaml" = .ok "kind: ServiceAccount" := by
  -- The folder lies behind one link, and the secret's link is not among those that are met.
  intro t
  have led : mounted.lead "/manifests" = .ok (40, ["manifests"]) := by decide +kernel
  have down : ∀ left base, mounted.lead "/manifests" = .ok (left, base) →
      ∀ target ∈ mounted.followed left base (names "drivers/../sa.yaml"),
        leadsDown target = true := by
    intro left base begins
    obtain ⟨rfl, rfl⟩ := Prod.mk.inj (Except.ok.inj (led.symm.trans begins))
    decide +kernel
  obtain ⟨-, same⟩ := assets_within_folder mounted "/manifests" "drivers/../sa.yaml"
    (by decide +kernel) (by decide +kernel) down
  have loads : ofFolder mounted "/manifests" "drivers/../sa.yaml" = .ok "kind: ServiceAccount" := by
    decide +kernel
  refine ⟨loads, ?_⟩
  rw [same t (by decide +kernel) ?_, loads]
  intro left base begins
  rw [led] at begins
  obtain ⟨-, rfl⟩ := Prod.mk.inj (Except.ok.inj begins)
  exact System.agreeBelow_of_restrict (by decide +kernel)

/-- Names with a way up, absolute names and links all lead out of a folder: what is loaded can change
with files that are elsewhere, and a driver may have such assets. -/
theorem assets_climb_out :
    let asset := (["work", "assets", "a.yaml"], "kind: ServiceAccount".toUTF8.toList)
    let secret := (["work", "secret.yaml"], "kind: Secret".toUTF8.toList)
    let link := (["work", "assets", "link.yaml"], "../secret.yaml")
    let s : System := { files := [asset, secret], here := ["work"], links := [link] }
    let t : System := { files := [asset], here := ["work"], links := [link] }
    let names := ["../secret.yaml", "/work/secret.yaml", "link.yaml"]
    Descriptor.validateAll [(Descriptor.new "A" .aws "a").withStaticAssets names] = .ok () ∧
      s.lead "assets" = .ok (40, ["work", "assets"]) ∧ t.lead "assets" = s.lead "assets" ∧
      s.AgreeBelow t ["work", "assets"] ∧
      ∀ name ∈ names, ofFolder s "assets" name = .ok "kind: Secret" ∧
        (ofFolder t "assets" name).isOk = false := by
  -- All is closed but the agreement of the two systems, which a comparison of their parts shows.
  intro asset secret link s t names
  refine ⟨by decide +kernel, by decide +kernel, by decide +kernel, ?_, by decide +kernel⟩
  exact System.agreeBelow_of_restrict (by decide +kernel)

end CsiOperator.AssetSource
