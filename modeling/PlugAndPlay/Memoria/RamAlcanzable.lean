import PlugAndPlay.Memoria.Accesos
import PlugAndPlay.Memoria.HilosRam

/-!
# Free memory that nobody can reach

A registration gives the bytes of its stick to the allocator before it opens the outbound connection, and does
not take them back when the connection cannot be opened. A byte of the free list or of a segment can be reached
exactly as far as the registrations are through: in a state in which every stick whose block is out has its
connection, all of them, and right after a block with bytes is out, not those.
-/

open PlugAndPlay.Library ByteRange

namespace PlugAndPlay.Memoria

/-- Each byte of a free block or a resident segment lies in a stick with an open outbound connection. -/
def KernelMemory.BytesAlcanzables (m : KernelMemory) : Prop :=
  ∀ range ∈ m.ocupacion, ∀ address, range.Contains address → ∃ stick ∈ m.ram.tabla, stick.Cubre address

/-- Within a resident segment a transfer fails only where a connection breaks. -/
def KernelMemory.SoloDesconexiones (m : KernelMemory) : Prop :=
  ∀ p ∈ m.procesos, ∀ seg ∈ p.segmentos, seg.Residente → ∀ dir tamanio : UInt32,
    seg.base.toNat ≤ dir.toNat → dir.toNat + tamanio.toNat ≤ seg.base.toNat + seg.limite.toNat →
      (∀ fallo, (memoryIoLeer m.ram dir tamanio).1 = .error fallo → fallo = .desconectado) ∧
        ∀ datos fallo, (memoryIoEscribir m.ram dir tamanio datos).1 = .error fallo → fallo = .desconectado

/-- Each stick with bytes has its outbound connection, or its block is still to come. -/
def HilosRam.Conectada (s : HilosRam) : Prop :=
  ∀ idx stick, s.memoria.ram.tabla[idx]? = some stick → stick.tamanio ≠ 0 →
    0 ≤ stick.outboundSocket ∨ ∃ base tamanio, .sinBloque idx base tamanio ∈ s.hilos.registros

/-! ## The stick of an address -/

section

variable {tabla : List MemoryStick} {stick : MemoryStick} {address : ℕ}

theorem MemoryStick.cubre_iff (h : stick.baseFisica.toNat + stick.tamanio.toNat < 2 ^ 32) :
    stick.Cubre address ↔ 0 ≤ stick.outboundSocket ∧ stick.rango.Contains address := by
  unfold Cubre
  rw [toNat_add_of_lt h]
  exact Iff.rfl

theorem exists_stick_of_lt (hbases : BasesAcumuladas 0 tabla) (hsuma : sumaSticks tabla < 2 ^ 32)
    (hlt : address < sumaSticks tabla) :
    ∃ idx : ℕ, ∃ stick : MemoryStick, tabla[idx]? = some stick ∧ stick.rango.Contains address := by
  have hcubre : hits (tabla.map MemoryStick.rango) address = 1 := by
    rw [rangos_eq_layout hbases (by rwa [UInt32.toNat_zero, Nat.zero_add]), hits_layout]
    apply if_pos
    rw [UInt32.toNat_zero, Nat.zero_add]
    exact ⟨Nat.zero_le _, hlt⟩
  obtain ⟨range, hrange, hcontiene⟩ := hits_pos_iff.mp (hcubre ▸ Nat.one_pos)
  obtain ⟨stick, hstick, rfl⟩ := List.mem_map.mp hrange
  obtain ⟨idx, hidx⟩ := List.getElem?_of_mem hstick
  exact ⟨idx, stick, hidx, hcontiene⟩

theorem SinVuelta.unico (h : SinVuelta tabla) {i j : ℕ} {otro : MemoryStick} (hi : tabla[i]? = some stick)
    (hj : tabla[j]? = some otro) (hc : stick.rango.Contains address) (hco : otro.rango.Contains address) :
    i = j := by
  apply index_unique h.disjuntos _ _ hc hco
  · rw [List.getElem?_map, hi]
    rfl
  · rw [List.getElem?_map, hj]
    rfl

end

/-! ## Transfers over bytes that can be reached -/

/-- Every address of a stretch has a stick that serves it. -/
def Servidos (tabla : List MemoryStick) (desde hasta : ℕ) : Prop :=
  ∀ address, desde ≤ address → address < hasta → ∃ stick ∈ tabla, stick.Cubre address

section

variable {tabla : List MemoryStick} {dirAct restante : UInt32}

theorem Servidos.mismaTabla {otra : List MemoryStick} {desde hasta : ℕ} (h : Servidos otra desde hasta)
    (hm : MismaTabla tabla otra) : Servidos tabla desde hasta := by
  intro address hdesde hhasta
  obtain ⟨stick, hstick, hcubre⟩ := h address hdesde hhasta
  obtain ⟨idx, hidx⟩ := List.getElem?_of_mem hstick
  obtain ⟨stick', hget, hentrada⟩ := hm.getElem? hidx
  have hcubre' : stick'.entrada.Cubre address := by
    rw [hentrada]
    exact hcubre
  exact ⟨stick', List.mem_of_getElem? hget, hcubre'⟩

theorem exists_siguienteAcceso (h : ∃ stick ∈ tabla, stick.Cubre dirAct.toNat) (restante : UInt32) :
    ∃ acceso, siguienteAcceso tabla dirAct restante = some acceso := by
  obtain ⟨stick, hstick, hcubre⟩ := h
  cases hbusca : conexionesBuscarStickPorDir tabla dirAct with
  | none =>
    have hno := List.findIdx?_eq_none_iff.mp hbusca stick hstick
    exact absurd (MemoryStick.sirve_iff_cubre.mpr hcubre) (by simpa using hno)
  | some idx =>
    obtain ⟨hlt, -, -⟩ := List.findIdx?_eq_some_iff_getElem.mp hbusca
    have hget : tabla[idx]? = some tabla[idx] := List.getElem?_eq_getElem hlt
    simp only [siguienteAcceso, hbusca, hget]
    exact ⟨_, rfl⟩

/-- The stick that a request goes to has all its bytes. -/
theorem siguienteAcceso_cabe {acceso : Acceso} {stick : MemoryStick}
    (h : siguienteAcceso tabla dirAct restante = some acceso) (hget : tabla[acceso.stick]? = some stick) :
    acceso.localOffset + acceso.bytes ≤ stick.tamanio := by
  obtain ⟨stick', hbusca, hget', hlocal, hbytes⟩ := siguienteAcceso_eq_some h
  obtain rfl := Option.some.inj (hget.symm.trans hget')
  have hsirve := sirve_of_buscar hbusca hget
  obtain ⟨hresta, hdentro, hrango⟩ := hsirve.resta
  have hbase := (MemoryStick.sirve_iff_cubre.mp hsirve).2.1
  have hoffset : acceso.localOffset.toNat = dirAct.toNat - stick.baseFisica.toNat := by
    rw [hlocal]
    exact toNat_sub_of_le hbase
  have hle : acceso.bytes.toNat ≤ (stick.tamanio - acceso.localOffset).toNat := by
    rw [hbytes]
    split
    · rename_i hgt
      exact (UInt32.lt_iff_toNat_lt.mp hgt).le
    · exact le_rfl
  rw [hlocal, hresta] at hle
  rw [UInt32.le_iff_toNat_le, toNat_add_of_lt (by omega)]
  omega

theorem Servidos.siguiente (h : Servidos tabla dirAct.toNat (dirAct.toNat + restante.toNat))
    (hrestante : restante ≠ 0) : ∃ acceso, siguienteAcceso tabla dirAct restante = some acceso := by
  have hpos : restante.toNat ≠ 0 := fun hcero ↦ hrestante (UInt32.toNat_inj.mp hcero)
  exact exists_siguienteAcceso (h dirAct.toNat le_rfl (by omega)) restante

/-- What is left after a request is served as well. -/
theorem Servidos.resto {acceso : Acceso} (h : Servidos tabla dirAct.toNat (dirAct.toNat + restante.toNat))
    (hfin : dirAct.toNat + restante.toNat < 2 ^ 32) (hle : acceso.bytes.toNat ≤ restante.toNat) :
    (dirAct + acceso.bytes).toNat + (restante - acceso.bytes).toNat = dirAct.toNat + restante.toNat ∧
      Servidos tabla (dirAct + acceso.bytes).toNat (dirAct.toNat + restante.toNat) := by
  have hdir : (dirAct + acceso.bytes).toNat = dirAct.toNat + acceso.bytes.toNat := toNat_add_of_lt (by omega)
  have hresto : (restante - acceso.bytes).toNat = restante.toNat - acceso.bytes.toNat := toNat_sub_of_le hle
  exact ⟨by omega, fun address hdesde hhasta ↦ h address (by omega) hhasta⟩

theorem leerTramos_desconectado (pasos : ℕ) {ram : Ram} (hfin : dirAct.toNat + restante.toNat < 2 ^ 32)
    (h : Servidos ram.tabla dirAct.toNat (dirAct.toNat + restante.toNat)) {fallo : FalloIo}
    (hfallo : (leerTramos pasos ram dirAct restante).1 = .error fallo) : fallo = .desconectado := by
  induction pasos generalizing ram dirAct restante with
  | zero => cases hfallo
  | succ pasos ih =>
    unfold leerTramos at hfallo
    by_cases hrestante : restante = 0
    · rw [if_pos hrestante] at hfallo
      cases hfallo
    · rw [if_neg hrestante] at hfallo
      obtain ⟨acceso, hacceso⟩ := h.siguiente hrestante
      obtain ⟨stick, hbusca, hget, hlocal, hbytes⟩ := siguienteAcceso_eq_some hacceso
      have hcabe := siguienteAcceso_cabe hacceso hget
      obtain ⟨hsuma, hresto⟩ := h.resto hfin (siguienteAcceso_pos hacceso hrestante).2
      have htabla := ram.tabla_siguienteCorte
      simp only [hbusca, hget, ← hlocal, ← hbytes, MemoryStick.manejarLectura, if_pos hcabe] at hfallo
      split at hfallo
      · exact (Except.error.inj hfallo).symm
      · rename_i ram' hcorte
        rw [hcorte] at htabla
        have hsigue : Servidos ram'.tabla (dirAct + acceso.bytes).toNat
            ((dirAct + acceso.bytes).toNat + (restante - acceso.bytes).toNat) := by
          rw [htabla, hsuma]
          exact hresto
        have hseguido := @ih (dirAct + acceso.bytes) (restante - acceso.bytes) ram' (by rw [hsuma]; exact hfin) hsigue
        split at hfallo
        · cases hfallo
        · rename_i fallo' ram'' hleer
          obtain rfl := Except.error.inj hfallo
          exact hseguido (congrArg Prod.fst hleer)

theorem escribirTramos_desconectado (pasos : ℕ) {ram : Ram} (hfin : dirAct.toNat + restante.toNat < 2 ^ 32)
    (h : Servidos ram.tabla dirAct.toNat (dirAct.toNat + restante.toNat)) {datos : List UInt8} {fallo : FalloIo}
    (hfallo : (escribirTramos pasos ram dirAct restante datos).1 = .error fallo) : fallo = .desconectado := by
  induction pasos generalizing ram dirAct restante datos with
  | zero => cases hfallo
  | succ pasos ih =>
    unfold escribirTramos at hfallo
    by_cases hrestante : restante = 0
    · rw [if_pos hrestante] at hfallo
      cases hfallo
    · rw [if_neg hrestante] at hfallo
      obtain ⟨acceso, hacceso⟩ := h.siguiente hrestante
      obtain ⟨stick, hbusca, hget, hlocal, hbytes⟩ := siguienteAcceso_eq_some hacceso
      obtain ⟨hsuma, hresto⟩ := h.resto hfin (siguienteAcceso_pos hacceso hrestante).2
      have htabla := ram.tabla_siguienteCorte
      simp only [hbusca, hget, ← hlocal, ← hbytes] at hfallo
      split at hfallo
      · exact (Except.error.inj hfallo).symm
      · rename_i ram' hcorte
        rw [hcorte] at htabla
        have hforma : MismaTabla (ram'.pedirEscritura acceso.stick acceso.localOffset acceso.bytes datos).tabla
            ram'.tabla := mismaTabla_modify _ _ fun s ↦ s.entrada_manejarEscritura _ _ _
        apply ih _ _ hfallo
        · rw [hsuma]
          exact hfin
        · apply Servidos.mismaTabla _ hforma
          rw [htabla, hsuma]
          exact hresto

end

/-! ## The states of a run -/

namespace HilosRam

variable {s : HilosRam}

theorem EnOrden.bytesAlcanzables (h : s.EnOrden) (hconectada : s.Conectada) : s.memoria.BytesAlcanzables := by
  obtain ⟨suspendidos, hrep⟩ := h.enSticks
  have hsin : SinVuelta s.memoria.ram.tabla := .of_lt hrep.bases hrep.suma
  intro range hrange address hcontiene
  have hlt : address < sumaSticks s.memoria.ram.tabla := by
    have hfin := hrep.ocupacion.within range hrange
    unfold Contains at hcontiene
    omega
  obtain ⟨idx, stick, hget, hstick⟩ := exists_stick_of_lt hrep.bases hrep.suma hlt
  have hbytes : stick.tamanio ≠ 0 := by
    rintro hcero
    obtain ⟨hdesde, hhasta⟩ := hstick
    simp only [MemoryStick.rango, hcero, UInt32.toNat_zero] at hdesde hhasta
    omega
  rcases hconectada idx stick hget hbytes with habierto | ⟨base, tamanio, hregistro⟩
  · have hrango := hsin.representables stick (List.mem_of_getElem? hget)
    exact ⟨stick, List.mem_of_getElem? hget, (MemoryStick.cubre_iff hrango).mpr ⟨habierto, hstick⟩⟩
  · -- a range still set aside shares no byte with what is out
    obtain ⟨suyo, hsuyo, -, hrangos⟩ := h.enlazado.suyo _ hregistro
    obtain rfl : stick = suyo := Option.some.inj (hget.symm.trans hsuyo)
    have hapartado : stick.rango ∈ apartados s.hilos.registros := by
      rw [← hrangos _ (List.mem_singleton_self _)]
      exact List.mem_flatMap.mpr ⟨_, hregistro, List.mem_singleton_self _⟩
    have huna := hrep.juntos.disjoint address
    have haparte : 0 < hits (apartados s.hilos.registros) address := hits_pos_iff.mpr ⟨_, hapartado, hstick⟩
    have hocupa : 0 < hits s.memoria.ocupacion address := hits_pos_iff.mpr ⟨range, hrange, hcontiene⟩
    rw [hits_append] at huna
    omega

theorem EnOrden.soloDesconexiones (h : s.EnOrden) (hbytes : s.memoria.BytesAlcanzables) :
    s.memoria.SoloDesconexiones := by
  obtain ⟨suspendidos, hrep⟩ := h.enSticks
  intro p hp seg hseg hres dir tamanio hdesde hhasta
  have hrango : seg.rango ∈ s.memoria.ocupacion := by
    apply List.mem_append_right
    apply List.mem_flatMap.mpr ⟨p, hp, _⟩
    exact List.mem_map_of_mem (List.mem_filter.mpr ⟨hseg, by simpa using hres⟩)
  have hdentro : seg.base.toNat + seg.limite.toNat ≤ sumaSticks s.memoria.ram.tabla :=
    hrep.ocupacion.within _ hrango
  have hsuma := hrep.suma
  have hservidos : Servidos s.memoria.ram.tabla dir.toNat (dir.toNat + tamanio.toNat) := by
    intro address hdir hfin
    apply hbytes _ hrango
    exact ⟨hdesde.trans hdir, hfin.trans_le hhasta⟩
  constructor
  · intro fallo hfallo
    exact leerTramos_desconectado _ (by omega) hservidos hfallo
  · intro datos fallo hfallo
    exact escribirTramos_desconectado _ (by omega) hservidos hfallo

/-- The block goes out before the connection is there. -/
theorem EnOrden.publicado {qsort : Qsort} {s' : HilosRam} {n idx : ℕ} {base tamanio : UInt32} (h : s.EnOrden)
    (hn : s.hilos.registros[n]? = some (.sinBloque idx base tamanio)) (htamanio : tamanio ≠ 0)
    (hpaso : s.paso qsort (.hilos (.bloque n)) = some s') : ¬ s'.memoria.BytesAlcanzables := by
  obtain ⟨suspendidos, hrep⟩ := h.enSticks
  have hsin : SinVuelta s.memoria.ram.tabla := .of_lt hrep.bases hrep.suma
  obtain ⟨suyo, hsuyo, hcerrado, hrangos⟩ := h.enlazado.suyo _ (List.mem_of_getElem? hn)
  have hrango : ⟨base.toNat, tamanio.toNat⟩ = suyo.rango := hrangos _ (List.mem_singleton_self _)
  have hbase : suyo.rango.Contains base.toNat := by
    have hpos : tamanio.toNat ≠ 0 := fun hcero ↦ htamanio (UInt32.toNat_inj.mp hcero)
    rw [← hrango]
    exact ⟨le_rfl, Nat.lt_add_of_pos_right (Nat.pos_of_ne_zero hpos)⟩
  obtain ⟨hilos, hhilos, rfl⟩ := Option.map_eq_some_iff.mp hpaso
  simp only [HilosRegistro.paso, hn] at hhilos
  obtain rfl := Option.some.inj hhilos
  have hfin : base.toNat + tamanio.toNat ≤ sumaSticks s.memoria.ram.tabla := by
    apply hrep.within_apartados ⟨base.toNat, tamanio.toNat⟩
    exact List.mem_flatMap.mpr ⟨_, List.mem_of_getElem? hn, List.mem_singleton_self _⟩
  have hlibre : 0 < hits (rangosLibres (bloquesLiberar s.memoria.bloquesLibres base tamanio)) base.toNat := by
    have hnuevo : hits [⟨base.toNat, tamanio.toNat⟩] base.toNat = 1 := by
      rw [hits_cons, hits_nil, hrango, if_pos hbase]
    rw [(bloquesLiberar_rangos _ _ hrep.suma hrep.within_libres hfin).2, hnuevo]
    omega
  obtain ⟨range, hrange, hcontiene⟩ := hits_pos_iff.mp hlibre
  intro hbytes
  obtain ⟨stick, hstick, hcubre⟩ := hbytes range (List.mem_append_left _ hrange) _ hcontiene
  obtain ⟨i, hi⟩ := List.getElem?_of_mem hstick
  obtain ⟨habierto, hdentro⟩ := (MemoryStick.cubre_iff (hsin.representables stick hstick)).mp hcubre
  obtain rfl : i = idx := hsin.unico hi hsuyo hdentro hbase
  obtain rfl : stick = suyo := Option.some.inj (hi.symm.trans hsuyo)
  omega

end HilosRam

/-- In every run, all bytes of free blocks and resident segments can be reached in the states in which each stick
with bytes has its connection or is still to give its block out, and some cannot right after such a block. -/
theorem ramAlcanzable_conectada (qsort : Qsort) (s : HilosRam)
    (h : Reachable (HilosRam.paso qsort) HilosRam.Inicial HilosRam.SinCruce s) :
    (s.Conectada → s.memoria.BytesAlcanzables ∧ s.memoria.SoloDesconexiones) ∧
      ∀ n idx base tamanio s', s.hilos.registros[n]? = some (.sinBloque idx base tamanio) → tamanio ≠ 0 →
        s.paso qsort (.hilos (.bloque n)) = some s' → ¬ s'.memoria.BytesAlcanzables := by
  have horden : s.EnOrden := HilosRam.enOrden_of_alcanzable h
  refine ⟨fun hconectada ↦ ?_, fun n idx base tamanio s' hn htamanio hpaso ↦ horden.publicado hn htamanio hpaso⟩
  have hbytes := horden.bytesAlcanzables hconectada
  exact ⟨hbytes, horden.soloDesconexiones hbytes⟩

/-- Kernel Memory as it starts. -/
def ramInicial : HilosRam := ⟨hilosIniciales, .ninguno⟩

theorem ramInicial_inicial : ramInicial.Inicial := ⟨hilosIniciales_inicial, rfl⟩

/-- A process is suspended and resumed while the second stick registers. -/
def eventosRam : List EventoRam :=
  eventosHueco.map .hilos ++
    [.registrarSwap swapDeOcho, .suspenderProceso 1, .hilos (.insertar stickDeCuatro), .volcarSegmento,
      .hilos (.bloque 0), .liberarSegmento, .desSuspenderProceso 1, .hilos (.conexion 0 6), .transferirSegmentos]

theorem ramAlcanzable_reanudado :
    (∃ s : HilosRam, (s.traslado = .ninguno ∧ tablaDe s.memoria.procesos 1 = some [⟨1, 0, 2, 0⟩] ∧
        s.memoria.bloquesLibres = [⟨2, 10⟩]) ∧
      s.memoria.BytesAlcanzables ∧ s.memoria.SoloDesconexiones) ∧
    ∃ s s' : HilosRam, s.paso .insercion (.hilos (.bloque 0)) = some s' ∧ ¬ s'.memoria.BytesAlcanzables := by
  have hinicio : Reachable (HilosRam.paso .insercion) HilosRam.Inicial HilosRam.SinCruce ramInicial :=
    .start ramInicial_inicial
  constructor
  · obtain ⟨s, hs, hfin, htabla⟩ := hinicio.exists_of_runAllowed eventosRam
      (fun s ↦ (s.traslado = .ninguno ∧ tablaDe s.memoria.procesos 1 = some [⟨1, 0, 2, 0⟩] ∧
        s.memoria.bloquesLibres = [⟨2, 10⟩]) ∧ ∀ stick ∈ s.memoria.ram.tabla, 0 ≤ stick.outboundSocket) (by decide)
    have hconectada : s.Conectada := fun _ stick hget _ ↦ .inl (htabla stick (List.mem_of_getElem? hget))
    exact ⟨s, hfin, (ramAlcanzable_conectada .insercion s hs).1 hconectada⟩
  · obtain ⟨s, hs, hregistro, hpaso⟩ := hinicio.exists_of_runAllowed [.hilos (.insertar stickDeOcho)]
      (fun s ↦ s.hilos.registros[0]? = some (.sinBloque 0 0 8) ∧ (s.paso .insercion (.hilos (.bloque 0))).isSome)
      (by decide)
    obtain ⟨s', hs'⟩ := Option.isSome_iff_exists.mp hpaso
    exact ⟨s, s', hs', (ramAlcanzable_conectada .insercion s hs).2 0 0 0 8 s' hregistro (by decide) hs'⟩

/-- The connection to the only stick cannot be opened, and a process is given a segment in it. -/
theorem segmento_sin_conexion :
    ¬ ∀ (qsort : Qsort) (s : HilosRam),
      Reachable (HilosRam.paso qsort) HilosRam.Inicial (fun _ _ ↦ True) s →
        s.memoria.BytesAlcanzables ∧ s.memoria.SoloDesconexiones := by
  intro hclaim
  have hinicio : Reachable (HilosRam.paso .insercion) HilosRam.Inicial (fun _ _ ↦ True) ramInicial :=
    .start ramInicial_inicial
  obtain ⟨s, hs, hsegmento, hnadie⟩ := hinicio.exists_of_runAllowed
    ([.insertar stickDeOcho, .bloque 0, .conexion 0 (-1), .scheduler (.crearProceso 1 []),
      .scheduler (.solicitarSegmento 1 0 3)].map .hilos)
    (fun s ↦ ⟨0, 3⟩ ∈ rangosResidentes s.memoria.procesos ∧ ∀ stick ∈ s.memoria.ram.tabla, ¬ stick.Cubre 0)
    (by decide)
  obtain ⟨stick, hstick, hcubre⟩ := (hclaim .insercion s hs).1 ⟨0, 3⟩ (List.mem_append_right _ hsegmento) 0
    (by decide)
  exact hnadie stick hstick hcubre

end PlugAndPlay.Memoria
