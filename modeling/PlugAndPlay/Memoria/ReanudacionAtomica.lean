import PlugAndPlay.Memoria.ConfirmacionesVeraces
import PlugAndPlay.Memoria.Reanudacion

/-!
# Resumptions that fail

A refused `DES_SUSPENDER_PROCESO` is tried again, so it should leave the process and the free list as they
were. It does when there is no room: the reservations are rolled back. It does not when SWAP fails
afterwards: the segments keep their new bases, and the next attempt reserves once more.
-/

open PlugAndPlay.Library ByteRange

namespace PlugAndPlay.Memoria

/-! ## Runs in which suspensions and resumptions fail -/

/-- A suspension or a resumption that may fail. A suspension whose transfer fails is not answered: when its wait
times out the scheduler goes on as if it had been, and later asks for the resumption. -/
def Corrida.PideConFallas (c : Corrida) : Operacion → Prop
  | .suspenderProceso pid => pid ∉ c.suspendidos
  | .desSuspenderProceso pid => pid ∈ c.suspendidos
  | _ => False

instance (c : Corrida) : (op : Operacion) → Decidable (c.PideConFallas op)
  | .suspenderProceso _ => inferInstanceAs (Decidable (_ ∉ _))
  | .desSuspenderProceso _ => inferInstanceAs (Decidable (_ ∈ _))
  | .registrarMemoryStick _ _ | .registrarSwap _ | .crearProceso _ _ | .solicitarSegmento _ _ _
  | .eliminarSegmento _ _ | .finalizarProceso _ | .obtenerEspacioLibre | .lecturaMemoria _ _ _
  | .escrituraMemoria _ _ _ _ => inferInstanceAs (Decidable False)

def Corrida.pasoConFallas (qsort : Qsort) (c : Corrida) (op : Operacion) : Option Corrida :=
  if c.Pide op ∨ c.PideConFallas op then some ⟨(atender qsort c.memoria op).2, c.suspendidosTras op⟩ else none

/-! ## What an attempt leaves behind -/

def KernelMemory.basesDe (m : KernelMemory) (pid : ℤ) : Option (List UInt32) :=
  (procesosBuscar m.procesos pid).map fun p ↦ p.segmentos.map Segmento.base

/-- A byte of the free list. -/
def KernelMemory.Libre (m : KernelMemory) (address : ℕ) : Prop :=
  0 < hits (rangosLibres m.bloquesLibres) address

/-- A refused resumption leaves the bases of the process and the free bytes as they were. -/
def ReanudacionAtomica (m : KernelMemory) (pid : ℤ) : Prop :=
  .ok .segmentationFault ∈ (manejarDesSuspenderProceso m pid).1 →
    (manejarDesSuspenderProceso m pid).2.basesDe pid = m.basesDe pid ∧
      ∀ address, (manejarDesSuspenderProceso m pid).2.Libre address ↔ m.Libre address

/-- `bloques_asignar` finds room for each segment after those before it. -/
def EntranEnRam (worstFit : Bool) : List Segmento → List BloqueLibre → Prop
  | [], _ => True
  | seg :: resto, libres =>
    (bloquesAsignar worstFit libres seg.limite).1 ≠ sinBase ∧
      EntranEnRam worstFit resto (bloquesAsignar worstFit libres seg.limite).2

/-- SWAP gives every block of a process that it could bring back. -/
def ReanudacionLegible (m : KernelMemory) (pid : ℤ) : Prop :=
  ∀ proc, procesosBuscar m.procesos pid = some proc → 0 ≤ m.swap.socket →
    EntranEnRam m.config.worstFit proc.segmentos m.bloquesLibres → (leerSegmentos proc.segmentos m.swap).isSome

/-! ## Reservations and reads -/

theorem entranEnRam_iff (worstFit : Bool) (segmentos : List Segmento) (libres : List BloqueLibre) :
    EntranEnRam worstFit segmentos libres ↔ (reservarSegmentos worstFit segmentos libres).1 = true := by
  induction segmentos generalizing libres with
  | nil => exact ⟨fun _ ↦ rfl, fun _ ↦ trivial⟩
  | cons seg resto ih =>
    unfold EntranEnRam reservarSegmentos
    rw [ih]
    cases bloquesAsignar worstFit libres seg.limite with
    | mk base libres₁ =>
      by_cases hbase : base = sinBase
      · simp [hbase]
      · simp [hbase]

theorem leerBloques_congr {seg seg' : Segmento} (h : seg'.swapBloqueInicio = seg.swapBloqueInicio)
    (restantes : ℕ) (b : UInt32) (swap : Swap) :
    leerBloques seg' restantes b swap = leerBloques seg restantes b swap := by
  induction restantes generalizing b swap with
  | zero => rfl
  | succ restantes ih =>
    unfold leerBloques
    rw [h]
    split
    · rfl
    · exact ih _ _

/-- What is read does not depend on where it goes. -/
theorem leerSegmentos_congr {segmentos reservas : List Segmento}
    (h : List.Forall₂ (fun seg seg' : Segmento ↦ seg'.id = seg.id ∧ seg'.limite = seg.limite ∧
      seg'.swapBloqueInicio = seg.swapBloqueInicio) segmentos reservas) (swap : Swap) :
    leerSegmentos reservas swap = leerSegmentos segmentos swap := by
  induction h generalizing swap with
  | nil => rfl
  | @cons seg seg' resto resto' hseg _ ih =>
    unfold leerSegmentos
    rw [hseg.2.1, leerBloques_congr hseg.2.2, funext ih]

theorem cantidadBloques_cero (bs : UInt32) : (cantidadBloques 0 bs).toNat = 0 := by
  have hlt := bs.toNat_lt
  have huno : (1 : UInt32).toNat = 1 := rfl
  unfold cantidadBloques
  rw [UInt32.toNat_div, UInt32.zero_add, UInt32.toNat_sub, huno]
  rcases Nat.eq_zero_or_pos bs.toNat with hcero | hpos
  · rw [hcero, Nat.div_zero]
  · apply Nat.div_eq_of_lt
    omega

/-- Segments without bytes have no blocks to read. -/
theorem leerSegmentos_vacios {segmentos : List Segmento} (h : ∀ seg ∈ segmentos, seg.limite = 0) (swap : Swap) :
    leerSegmentos segmentos swap = some swap := by
  induction segmentos with
  | nil => rfl
  | cons seg resto ih =>
    obtain ⟨hseg, hresto⟩ := List.forall_mem_cons.mp h
    unfold leerSegmentos
    rw [hseg, cantidadBloques_cero]
    exact ih hresto

/-! ## The invariant of the runs -/

section

variable {m m' : KernelMemory} {suspendidos : List ℤ} {pid : ℤ}

/-- The ways through `manejar_des_suspender_proceso`. -/
inductive Reanuda (m : KernelMemory) (pid : ℤ) : List Mensaje → KernelMemory → Prop
  | sinProceso : procesosBuscar m.procesos pid = none → Reanuda m pid [.ok .desSuspenderProceso] m
  | sinSwap : m.swap.socket < 0 → Reanuda m pid [.ok .segmentationFault] m
  | sinEspacio {p : Proceso} {libres : List BloqueLibre} :
    procesosBuscar m.procesos pid = some p → 0 ≤ m.swap.socket →
    reservarSegmentosConRollback m.config.worstFit p.segmentos m.bloquesLibres = (none, libres) →
    Reanuda m pid [.ok .segmentationFault] { m with bloquesLibres := libres }
  | colocado {p : Proceso} {segmentos : List Segmento} {libres : List BloqueLibre} {m' : KernelMemory} :
    procesosBuscar m.procesos pid = some p → 0 ≤ m.swap.socket →
    reservarSegmentosConRollback m.config.worstFit p.segmentos m.bloquesLibres = (some segmentos, libres) →
    SoloDispositivos (ponerSegmentos { m with bloquesLibres := libres } pid segmentos) m' →
    Reanuda m pid (if (leerSegmentos segmentos m.swap).isSome then [.ok .desSuspenderProceso]
      else [.ok .segmentationFault]) m'

theorem reanuda (m : KernelMemory) (pid : ℤ) :
    Reanuda m pid (manejarDesSuspenderProceso m pid).1 (manejarDesSuspenderProceso m pid).2 := by
  unfold manejarDesSuspenderProceso desSuspenderProceso
  cases hp : procesosBuscar m.procesos pid with
  | none => exact .sinProceso hp
  | some p =>
    by_cases hswap : m.swap.socket < 0
    · simp only [if_pos hswap]
      exact .sinSwap hswap
    · simp only [if_neg hswap]
      have hsocket := not_lt.mp hswap
      cases hreservar : reservarSegmentosConRollback m.config.worstFit p.segmentos m.bloquesLibres with
      | mk reservas libres =>
        cases reservas with
        | none => exact .sinEspacio hp hsocket hreservar
        | some segmentos =>
          have hleidos := transferirSwapARam_leidos segmentos
            (ponerSegmentos { m with bloquesLibres := libres } pid segmentos)
          have hdisp := transferirSwapARam_soloDispositivos segmentos
            (ponerSegmentos { m with bloquesLibres := libres } pid segmentos)
          have hfin := Reanuda.colocado hp hsocket hreservar hdisp
          rw [← show _ = (leerSegmentos segmentos m.swap).isSome from hleidos] at hfin
          cases htransferir : transferirSwapARam segmentos
              (ponerSegmentos { m with bloquesLibres := libres } pid segmentos) with
          | mk todo m₁ =>
            rw [htransferir] at hfin
            cases todo with
            | true =>
              simp only [htransferir]
              exact hfin
            | false =>
              simp only [htransferir]
              exact hfin

/-- A resumption takes ranges from the free list and gives none back, and a process that stays suspended may
have segments in RAM. -/
theorem Repartida.reintentar (h : Repartida True True [] m suspendidos) (hsusp : pid ∈ suspendidos) :
    Repartida True True [] (manejarDesSuspenderProceso m pid).2 suspendidos := by
  have hreanuda := reanuda m pid
  generalize (manejarDesSuspenderProceso m pid).1 = respuesta at hreanuda
  generalize (manejarDesSuspenderProceso m pid).2 = m' at hreanuda ⊢
  cases hreanuda with
  | sinProceso => exact h
  | sinSwap => exact h
  | @sinEspacio p libres hp hsocket hreservar =>
    obtain ⟨hlibres, ⟨_, hhits⟩ | ⟨segmentos, hsegmentos, _⟩⟩ :=
      reservarSegmentosConRollback_cases h.suma h.within_libres hreservar
    · refine h.cambiar rfl (fun address ↦ .inl ?_) hlibres h.tablas
      rw [KernelMemory.hits_ocupacion, KernelMemory.hits_ocupacion, hhits]
    · cases hsegmentos
  | @colocado p segmentos libres m' hp hsocket hreservar hdisp =>
    obtain ⟨hlibres, ⟨hnada, _⟩ | ⟨reservas, hreservas, _, hsegs, hhits⟩⟩ :=
      reservarSegmentosConRollback_cases h.suma h.within_libres hreservar
    · cases hnada
    · obtain rfl := Option.some.inj hreservas
      refine h.cambiar hdisp.tabla.medidas (fun address ↦ .inr ⟨trivial, ?_⟩) ?_ ?_
      · have htabla := hits_ponerSegmentos hp segmentos address
        have hlibre := hhits address
        simp only [KernelMemory.hits_ocupacion, hdisp.procesos, hdisp.libres]
        simp only [ponerSegmentos] at htabla ⊢
        omega
      · rw [hdisp.libres]
        exact hlibres
      · rw [hdisp.procesos]
        refine h.tablas.modificar hp rfl (fun _ _ ↦ Iff.rfl) (fun hfuera ↦ absurd hsusp hfuera) ?_
        exact fun _ seg hseg _ ↦ ⟨trivial, (hsegs seg hseg).2⟩

theorem Repartida.pasoConFallas {qsort : Qsort} {c c' : Corrida} {op : Operacion}
    (h : Repartida True True [] c.memoria c.suspendidos) (hpaso : c.pasoConFallas qsort op = some c') :
    Repartida True True [] c'.memoria c'.suspendidos := by
  unfold Corrida.pasoConFallas at hpaso
  split at hpaso
  case isFalse => cases hpaso
  rename_i hpide
  by_cases hpaso' : c.Pide op
  · have hexito : c.paso qsort op = some c' := by
      unfold Corrida.paso
      rw [if_pos hpaso']
      exact hpaso
    exact h.paso (.inl trivial) (.inl trivial) hexito
  · have hfalla := hpide.resolve_left hpaso'
    obtain rfl := Option.some.inj hpaso
    cases op with
    | suspenderProceso pid =>
      obtain ⟨fin, m', hfin⟩ : ∃ fin m', suspenderProceso c.memoria pid = (fin, m') := ⟨_, _, rfl⟩
      have hsin : fin ≠ .sinProceso := by
        rintro rfl
        exact hpaso' (.inl (congrArg Prod.fst hfin))
      simp only [atender, manejarSuspenderProceso_snd, Corrida.suspendidosTras, hfin, if_neg hsin]
      exact (h.suspender hfin).2 hfalla hsin (.inr trivial)
    | desSuspenderProceso pid =>
      have hfallo : (desSuspenderProceso c.memoria pid).1 = .fallo := by
        by_contra hno
        exact hpaso' (.inr ⟨hfalla, hno⟩)
      have hno : (desSuspenderProceso c.memoria pid).1 ≠ .completa := by
        rw [hfallo]
        exact FinReanudacion.noConfusion
      show Repartida True True [] (manejarDesSuspenderProceso c.memoria pid).2
        (if (desSuspenderProceso c.memoria pid).1 = .completa then c.suspendidos.filter (· ≠ pid)
          else c.suspendidos)
      rw [if_neg hno]
      exact h.reintentar hfalla
    | _ => exact hfalla.elim

/-! ## Exactly when an attempt leaves nothing behind -/

/-- Segments with bytes take some of the free bytes. -/
theorem libre_de_reserva {segmentos : List Segmento} {libres resto : List BloqueLibre} {top : ℕ}
    (huna : ∀ address, hits (rangosLibres libres) address ≤ 1)
    (hsegs : ∀ seg ∈ segmentos, seg.Residente ∧ seg.base.toNat + seg.limite.toNat ≤ top)
    (hhits : ∀ address, hits (rangosLibres libres) address =
      hits (rangosSegmentos segmentos) address + hits (rangosLibres resto) address)
    {seg : Segmento} (hseg : seg ∈ segmentos) (hlimite : seg.limite ≠ 0) :
    0 < hits (rangosLibres libres) seg.base.toNat ∧ ¬ 0 < hits (rangosLibres resto) seg.base.toNat := by
  have hpos := toNat_pos_of_ne hlimite
  have hocupa : 0 < hits (rangosSegmentos segmentos) seg.base.toNat := by
    apply hits_pos_iff.mpr
    refine ⟨seg.rango, List.mem_map_of_mem (List.mem_filter.mpr ⟨hseg, decide_eq_true (hsegs seg hseg).1⟩), ?_⟩
    exact ⟨Nat.le_refl _, Nat.lt_add_of_pos_right hpos⟩
  have hbyte := hhits seg.base.toNat
  have hmax := huna seg.base.toNat
  omega

/-- With a sound free list an attempt is atomic exactly when SWAP gives every block of a process that has
got its places. -/
theorem reanudacionAtomica_of_libres {top : ℕ} (htop : top < 2 ^ 32)
    (hlibres : Packed (rangosLibres m.bloquesLibres) top) (pid : ℤ) :
    ReanudacionAtomica m pid ↔ ReanudacionLegible m pid := by
  have hreanuda := reanuda m pid
  unfold ReanudacionAtomica ReanudacionLegible
  generalize (manejarDesSuspenderProceso m pid).1 = respuesta at hreanuda ⊢
  generalize (manejarDesSuspenderProceso m pid).2 = m' at hreanuda ⊢
  cases hreanuda with
  | sinProceso hp =>
    refine iff_of_true (fun _ ↦ ⟨rfl, fun _ ↦ Iff.rfl⟩) fun proc hproc ↦ ?_
    rw [hp] at hproc
    cases hproc
  | sinSwap hswap =>
    exact iff_of_true (fun _ ↦ ⟨rfl, fun _ ↦ Iff.rfl⟩) fun proc _ hsocket ↦ absurd hswap (not_lt.mpr hsocket)
  | @sinEspacio p libres hp hsocket hreservar =>
    obtain ⟨_, ⟨_, hhits⟩ | ⟨segmentos, hsegmentos, _⟩⟩ :=
      reservarSegmentosConRollback_cases htop hlibres.within hreservar
    · refine iff_of_true (fun _ ↦ ⟨rfl, fun address ↦ ?_⟩) fun proc hproc _ hentran ↦ ?_
      · unfold KernelMemory.Libre
        rw [hhits]
      · obtain rfl := Option.some.inj (hp.symm.trans hproc)
        rw [entranEnRam_iff] at hentran
        unfold reservarSegmentosConRollback at hreservar
        split at hreservar
        · cases hreservar
        · rename_i hfalla
          rw [hfalla] at hentran
          cases hentran
    · cases hsegmentos
  | @colocado p segmentos libres m' hp hsocket hreservar hdisp =>
    obtain ⟨_, ⟨hnada, _⟩ | ⟨reservas, hreservas, hreserva, hsegs, hhits⟩⟩ :=
      reservarSegmentosConRollback_cases htop hlibres.within hreservar
    · cases hnada
    obtain rfl := Option.some.inj hreservas
    have higuales := reservarSegmentos_iguales hreserva
    have hleidos := leerSegmentos_congr higuales m.swap
    have hentran : EntranEnRam m.config.worstFit p.segmentos m.bloquesLibres := by
      rw [entranEnRam_iff, hreserva]
    by_cases hlegible : (leerSegmentos segmentos m.swap).isSome
    · rw [if_pos hlegible]
      refine iff_of_true (fun hfalla ↦ ?_) fun proc hproc _ _ ↦ ?_
      · cases List.mem_singleton.mp hfalla
      · obtain rfl := Option.some.inj (hp.symm.trans hproc)
        rwa [hleidos] at hlegible
    · rw [if_neg hlegible]
      refine iff_of_false (fun hatomica ↦ ?_) fun hcumple ↦ ?_
      · obtain ⟨seg, hseg, hlimite⟩ : ∃ seg ∈ segmentos, seg.limite ≠ 0 := by
          by_contra hno
          have hvacios : ∀ seg ∈ segmentos, seg.limite = 0 :=
            fun seg hseg ↦ by_contra fun hlimite ↦ hno ⟨seg, hseg, hlimite⟩
          rw [leerSegmentos_vacios hvacios] at hlegible
          exact hlegible rfl
        obtain ⟨hantes, hdespues⟩ := libre_de_reserva hlibres.disjoint hsegs hhits hseg hlimite
        have hlibre := ((hatomica (List.mem_singleton_self _)).2 seg.base.toNat).mpr hantes
        unfold KernelMemory.Libre at hlibre
        rw [hdisp.libres] at hlibre
        exact hdespues hlibre
      · rw [hleidos] at hlegible
        exact hlegible (hcumple p hp hsocket hentran)

end

/-- In every state of every run, a refused resumption leaves bases and free bytes alone unless SWAP fails
after all segments have got their places. -/
theorem reanudacion_atomica_iff (qsort : Qsort) (c : Corrida)
    (h : Reachable (Corrida.pasoConFallas qsort) Corrida.Inicial (fun _ _ ↦ True) c) (pid : ℤ) :
    ReanudacionAtomica c.memoria pid ↔ ReanudacionLegible c.memoria pid := by
  have hrepartida : Repartida True True [] c.memoria c.suspendidos := by
    apply h.invariant (P := fun c ↦ Repartida True True [] c.memoria c.suspendidos)
    · exact fun _ hc ↦ Repartida.inicial hc.1 hc.2.1 hc.2.2.1
    · exact fun _ _ _ hinv _ hpaso ↦ hinv.pasoConFallas hpaso
  have hocupacion := hrepartida.ocupacion
  apply reanudacionAtomica_of_libres hrepartida.suma
  refine ⟨fun address ↦ ?_, hrepartida.within_libres⟩
  have huna := hocupacion.disjoint address
  rw [KernelMemory.hits_ocupacion] at huna
  omega

/-- The first segment finds room and the second does not: its range goes back. -/
theorem reanudacion_atomica_sinEspacio : ∃ c : Corrida, c.suspendidos = [1] ∧
    (manejarDesSuspenderProceso c.memoria 1).1 = [.ok .segmentationFault] ∧ ReanudacionAtomica c.memoria 1 := by
  have hinicio : Reachable (Corrida.pasoConFallas .insercion) Corrida.Inicial (fun _ _ ↦ True)
      corridaInicial := .start corridaInicial_inicial
  obtain ⟨c, hc, hsusp, hfalla, hlegible⟩ := hinicio.exists_of_runAllowed
    [.registrarMemoryStick stickDeOcho 5, .registrarSwap swapDeOcho, .crearProceso 1 [],
      .solicitarSegmento 1 0 3, .solicitarSegmento 1 1 2, .suspenderProceso 1, .crearProceso 2 [],
      .solicitarSegmento 2 0 4]
    (fun c ↦ c.suspendidos = [1] ∧ (manejarDesSuspenderProceso c.memoria 1).1 = [.ok .segmentationFault] ∧
      (procesosBuscar c.memoria.procesos 1).all fun p ↦ (leerSegmentos p.segmentos c.memoria.swap).isSome)
    (by decide +kernel)
  refine ⟨c, hsusp, hfalla, (reanudacion_atomica_iff .insercion c hc 1).mpr fun proc hproc _ _ ↦ ?_⟩
  rw [hproc] at hlegible
  exact hlegible

/-- Eight swap blocks of two bytes; the third request to SWAP breaks. -/
def swapQueFalla : SwapNuevo := ⟨3, 2, 16, fun _ ↦ 0, [false, false, true], configurado_ocho_bloques⟩

/-- The first block cannot be read back: the segment keeps the place it had got. -/
theorem reanudacion_no_atomica : ∃ c : Corrida,
    Reachable (Corrida.pasoConFallas .insercion) Corrida.Inicial (fun _ _ ↦ True) c ∧ c.suspendidos = [1] ∧
      ¬ ReanudacionAtomica c.memoria 1 := by
  have hinicio : Reachable (Corrida.pasoConFallas .insercion) Corrida.Inicial (fun _ _ ↦ True)
      corridaInicial := .start corridaInicial_inicial
  obtain ⟨c, hc, hsusp, hfalla, hantes, hdespues⟩ := hinicio.exists_of_runAllowed
    [.registrarMemoryStick stickDeOcho 5, .registrarSwap swapQueFalla, .crearProceso 1 [],
      .solicitarSegmento 1 0 3, .suspenderProceso 1]
    (fun c ↦ c.suspendidos = [1] ∧ .ok .segmentationFault ∈ (manejarDesSuspenderProceso c.memoria 1).1 ∧
      c.memoria.basesDe 1 = some [sinBase] ∧ (manejarDesSuspenderProceso c.memoria 1).2.basesDe 1 = some [0])
    (by decide +kernel)
  refine ⟨c, hc, hsusp, fun hatomica ↦ ?_⟩
  have hbases := (hatomica hfalla).1
  rw [hantes, hdespues] at hbases
  exact absurd hbases (by decide)

end PlugAndPlay.Memoria
