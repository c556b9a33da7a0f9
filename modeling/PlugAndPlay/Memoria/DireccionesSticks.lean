import PlugAndPlay.Library.Layout
import PlugAndPlay.Library.Transitions
import PlugAndPlay.Memoria.Cpu

/-!
# The addresses of the sticks

Every base is the 32-bit sum of the sizes before it, and nobody looks at what it adds up to. The sticks lie
one behind another as long as all of them together stay below `2 ^ 32` bytes; past that the bases begin
again at the low addresses, which the first sticks have already.
-/

open PlugAndPlay.Library ByteRange

namespace PlugAndPlay.Memoria

/-! ## Registrations -/

/-- What happens to the table: a stick is inserted, or the outbound connection of an entry changes. -/
inductive EventoTabla
  | agregar (stick : StickNuevo)
  | outbound (idx : ℕ) (sock : ℤ)

/-- A registration is accepted while there is room for its entry. -/
def pasoTabla (tabla : List MemoryStick) : EventoTabla → Option (List MemoryStick)
  | .agregar stick =>
    (conexionesAgregarStick tabla stick.socket stick.tamanio stick.ip stick.puerto stick.memoria).map
      fun resultado ↦ resultado.2.2
  | .outbound idx sock => some (conexionesStickSetOutboundSocket tabla idx sock)

/-- Any accepted registrations, whatever sizes they announce. -/
abbrev TablaAlcanzable (tabla : List MemoryStick) : Prop :=
  Reachable pasoTabla (· = []) (fun _ _ ↦ True) tabla

/-- The addresses of an entry, as integers. -/
def MemoryStick.rango (stick : MemoryStick) : ByteRange := ⟨stick.baseFisica.toNat, stick.tamanio.toNat⟩

/-- Nothing has wrapped: the ranges of the sticks are apart and end within 32 bits, the total is the sum of
the sizes, and each address below it is found in the one stick that has it. -/
structure SinVuelta (tabla : List MemoryStick) : Prop where
  disjuntos : (tabla.map MemoryStick.rango).Pairwise Apart
  representables : ∀ stick ∈ tabla, stick.baseFisica.toNat + stick.tamanio.toNat < 2 ^ 32
  total : (conexionesTamanioTotalRam tabla).toNat = sumaSticks tabla
  busca : Alcanzables tabla → ∀ address < sumaSticks tabla, ∃ idx stick,
    conexionesBuscarStickPorDir tabla (UInt32.ofNat address) = some idx ∧ tabla[idx]? = some stick ∧
      stick.rango.Contains address ∧
        ∀ otro sitio, tabla[otro]? = some sitio → sitio.rango.Contains address → otro = idx

/-! ## The layout -/

section

variable {tabla : List MemoryStick}

theorem basesAcumuladas_pasoTabla {tabla' : List MemoryStick} {e : EventoTabla}
    (h : BasesAcumuladas 0 tabla) (hpaso : pasoTabla tabla e = some tabla') : BasesAcumuladas 0 tabla' := by
  cases e with
  | agregar stick =>
    simp only [pasoTabla, conexionesAgregarStick] at hpaso
    by_cases hlleno : maxMemorySticks ≤ tabla.length
    · rw [if_pos hlleno] at hpaso
      cases hpaso
    · rw [if_neg hlleno, Option.map_some] at hpaso
      cases hpaso
      exact basesAcumuladas_append.mpr ⟨h, rfl⟩
  | outbound idx sock =>
    cases hpaso
    exact (basesAcumuladas_congr (medidas_setOutboundSocket tabla idx sock)).mpr h

theorem basesAcumuladas_of_alcanzable (h : TablaAlcanzable tabla) : BasesAcumuladas 0 tabla := by
  apply h.invariant (P := BasesAcumuladas 0)
  · rintro _ rfl
    trivial
  · exact fun _ _ _ hbases _ hpaso ↦ basesAcumuladas_pasoTabla hbases hpaso

/-- Without wrapping, the entries are laid out one behind another. -/
theorem rangos_eq_layout {base : UInt32} (h : BasesAcumuladas base tabla)
    (hsuma : base.toNat + sumaSticks tabla < 2 ^ 32) :
    tabla.map MemoryStick.rango = layout base.toNat (tabla.map fun stick ↦ stick.tamanio.toNat) := by
  induction tabla generalizing base with
  | nil => rfl
  | cons stick resto ih =>
    have hsticks : sumaSticks (stick :: resto) = stick.tamanio.toNat + sumaSticks resto := by
      simp [sumaSticks]
    rw [hsticks] at hsuma
    have hbase : (base + stick.tamanio).toNat = base.toNat + stick.tamanio.toNat := toNat_add_of_lt (by omega)
    have hresto := ih h.2 (by rw [hbase]; omega)
    rw [hbase] at hresto
    rw [List.map_cons, List.map_cons, layout, hresto, MemoryStick.rango, h.1]

theorem packed_rangos (h : BasesAcumuladas 0 tabla) (hsuma : sumaSticks tabla < 2 ^ 32) :
    Packed (tabla.map MemoryStick.rango) (sumaSticks tabla) := by
  have hlayout := rangos_eq_layout h (by rwa [UInt32.toNat_zero, Nat.zero_add])
  rw [hlayout]
  exact (partition_layout _).packed

/-- Every address below the sum of the sizes is in an entry. -/
theorem exists_rango (h : BasesAcumuladas 0 tabla) (hsuma : sumaSticks tabla < 2 ^ 32) {address : ℕ}
    (hlt : address < sumaSticks tabla) : ∃ stick ∈ tabla, stick.rango.Contains address := by
  have hlayout : tabla.map MemoryStick.rango = layout 0 (tabla.map fun stick ↦ stick.tamanio.toNat) :=
    rangos_eq_layout h (by rwa [UInt32.toNat_zero, Nat.zero_add])
  have huna : hits (tabla.map MemoryStick.rango) address = 1 := by
    rw [hlayout]
    exact ((partition_layout _).cover address).trans (if_pos hlt)
  obtain ⟨rango, hrango, hcontiene⟩ := hits_pos_iff.mp (huna ▸ Nat.one_pos)
  obtain ⟨stick, hstick, rfl⟩ := List.mem_map.mp hrango
  exact ⟨stick, hstick, hcontiene⟩

theorem SinVuelta.of_lt (h : BasesAcumuladas 0 tabla) (hsuma : sumaSticks tabla < 2 ^ 32) : SinVuelta tabla := by
  have hpacked := packed_rangos h hsuma
  have htotal : (sumaTamanios 0 tabla).toNat = sumaSticks tabla := by
    calc
      (sumaTamanios 0 tabla).toNat
      _ = (0 : UInt32).toNat + sumaSticks tabla :=
        toNat_sumaTamanios (by rwa [UInt32.toNat_zero, Nat.zero_add])
      _ = sumaSticks tabla := Nat.zero_add _
  constructor
  · exact hpacked.pairwise
  · intro stick hstick
    have hfin := hpacked.within stick.rango (List.mem_map_of_mem hstick)
    simp only [MemoryStick.rango] at hfin
    omega
  · rw [conexionesTamanioTotalRam_eq]
    exact htotal
  · intro hopen address haddress
    obtain ⟨idx, stick, hget, hcubre, hrango, hubica⟩ :=
      ubicar_tramo h hopen (Nat.zero_le _) (Nat.zero_le address) (by rwa [htotal])
    have hdir : (UInt32.ofNat address).toNat = address :=
      UInt32.toNat_ofNat_of_lt' (by show _ < 2 ^ 32; omega)
    have hcontiene : stick.rango.Contains address := by
      have hfin := hcubre.2.2
      rw [toNat_add_of_lt hrango] at hfin
      exact ⟨hcubre.2.1, hfin⟩
    refine ⟨idx, stick, ?_, hget, hcontiene, ?_⟩
    · rw [conexionesBuscarStickPorDir_eq, hdir]
      exact hubica address le_rfl hcontiene.2
    · intro otro sitio hotro hsitio
      apply index_unique hpacked.pairwise _ _ hsitio hcontiene
      · rw [List.getElem?_map, hotro]
        rfl
      · rw [List.getElem?_map, hget]
        rfl

end

/-- After any registrations the addresses of the sticks have not wrapped if and only if the sizes add up to
less than `2 ^ 32`. -/
theorem sinVuelta_iff (tabla : List MemoryStick) (h : TablaAlcanzable tabla) :
    SinVuelta tabla ↔ sumaSticks tabla < 2 ^ 32 := by
  constructor
  · intro hsin
    rw [← hsin.total]
    exact UInt32.toNat_lt _
  · exact SinVuelta.of_lt (basesAcumuladas_of_alcanzable h)

def stickDe (tamanio : UInt32) : StickNuevo := ⟨1, tamanio, "", "", fun _ ↦ 0⟩

theorem sinVuelta_iff_dosSticks : ∃ tabla : List MemoryStick, TablaAlcanzable tabla ∧
    sumaSticks tabla = 2 ^ 32 - 1 ∧ (SinVuelta tabla ↔ sumaSticks tabla < 2 ^ 32) := by
  have hinicio : TablaAlcanzable [] := .start rfl
  obtain ⟨tabla, htabla, hsuma⟩ := hinicio.exists_of_runAllowed
    [.agregar (stickDe 0x80000000), .outbound 0 5, .agregar (stickDe 0x7FFFFFFF), .outbound 1 6]
    (fun tabla ↦ sumaSticks tabla = 2 ^ 32 - 1) (by decide +kernel)
  exact ⟨tabla, htabla, hsuma, sinVuelta_iff tabla htabla⟩

/-- A third stick after two of `2 ^ 31` bytes begins at address 0 again, in the range of the first. -/
theorem direcciones_dan_la_vuelta : ¬ ∀ tabla : List MemoryStick, TablaAlcanzable tabla → SinVuelta tabla := by
  intro hsin
  have hinicio : TablaAlcanzable [] := .start rfl
  obtain ⟨tabla, htabla, hrangos⟩ := hinicio.exists_of_runAllowed
    [.agregar (stickDe 0x80000000), .agregar (stickDe 0x80000000), .agregar (stickDe 16)]
    (fun tabla ↦ tabla.map MemoryStick.rango = [⟨0, 2 ^ 31⟩, ⟨2 ^ 31, 2 ^ 31⟩, ⟨0, 16⟩]) (by decide +kernel)
  have hdisjuntos := (hsin tabla htabla).disjuntos
  rw [hrangos] at hdisjuntos
  have hprimero := (List.pairwise_cons.mp hdisjuntos).1 ⟨0, 16⟩ (by simp) 0
  exact hprimero (by decide) (by decide)

end PlugAndPlay.Memoria
