import ImportScan.Path
import ImportScan.Yaml.Load

/-! # Platforms with a YAML reader

    The YAML library that programs are given is the reader of this library.

    * `capturedOutput` : a platform that keeps what is printed.
    * `utf8Output`     : a platform that prints UTF-8.
-/

namespace ImportScan

namespace Yaml

theorem tell_nil : tell [] = none := rfl

theorem tell_ok {portions : List Text} {d : Datum} (h : tell portions = some (.ok d)) :
    [] ∈ portions := by
  unfold tell at h
  split at h
  · next hwhole => exact List.contains_iff_mem.mp hwhole
  · split at h
    · cases h
    · split at h <;> cases h

theorem tell_ended {portions : List Text} (h : [] ∈ portions) : (tell portions).isSome := by
  rw [tell, if_pos (List.contains_iff_mem.mpr h)]
  rcases parse portions.flatten false with (_ | _) | _ <;> rfl

end Yaml

/-- Output is kept as it is, so every code point can be printed; the account has no home of its
    own. -/
instance capturedOutput : Platform where
  yaml := Yaml.tell
  yaml_nil := Yaml.tell_nil
  yaml_ok := Yaml.tell_ok
  yaml_ended := Yaml.tell_ended
  home := [Path.slash]
  prints _ := true
  prints_ascii _ := rfl

/-- Output is UTF-8, which surrogates do not have. -/
@[reducible]
def utf8Output : Platform where
  yaml := Yaml.tell
  yaml_nil := Yaml.tell_nil
  yaml_ok := Yaml.tell_ok
  yaml_ended := Yaml.tell_ended
  home := [Path.slash]
  prints c := !c.isSurrogate
  prints_ascii := by
    intro c hc
    have hlow : ¬ 0xD800 ≤ c.val := by omega
    simp [CodePoint.isSurrogate, hlow]

end ImportScan
