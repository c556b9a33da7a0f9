import PlugAndPlay.Cpu.Mmu
import Mathlib.Tactic.IntervalCases

/-!
# The two paths to memory

A logical address reaches the sticks through the CPU or through Kernel Memory. Where the end of the range
does not wrap, both paths accept the same requests and touch the same bytes; where it wraps, the bound
check lets through ranges that leave the segment.
-/

open PlugAndPlay.Library

namespace PlugAndPlay.Cpu

open Memoria

/-- Every segment of the table is resident and lies in RAM. -/
def Residentes (tabla : List MemoryStick) (segmentos : List Segmento) : Prop :=
  ∀ seg ∈ segmentos, seg.Residente ∧ seg.base.toNat + seg.limite.toNat ≤ sumaSticks tabla

instance (tabla : List MemoryStick) (segmentos : List Segmento) :
    Decidable (Residentes tabla segmentos) := inferInstanceAs (Decidable (∀ _ ∈ _, _))

section Caminos

variable {config : ConfigMemory} {proc : Proceso} {contexto : Contexto} {ram : Ram}
  {sticks : List CpuStick} {dirLogica tamanio : UInt32}

/-- What both translators do with a request, by the segment they find. -/
theorem traducir_cases (config : ConfigMemory) (sticks : List CpuStick) (dirLogica tamanio : UInt32)
    (hcontexto : contexto.tablaSegmentos = proc.segmentos)
    (hresidentes : Residentes ram.tabla proc.segmentos) :
    (traducirDirLogica config proc dirLogica tamanio = none ∧
      mmuTraducirDirLogica config.segmentMaxSize.toUInt32 sticks contexto dirLogica tamanio = none ∧
        ∀ seg, proc.segmentos.find? (fun s ↦ s.id = dirLogica / config.segmentMaxSize.toUInt32) =
          some seg → dirLogica % config.segmentMaxSize.toUInt32 + tamanio > seg.limite) ∨
    ∃ seg, proc.segmentos.find? (fun s ↦ s.id = dirLogica / config.segmentMaxSize.toUInt32) = some seg ∧
      ¬ dirLogica % config.segmentMaxSize.toUInt32 + tamanio > seg.limite ∧
      seg.base.toNat + seg.limite.toNat ≤ sumaSticks ram.tabla ∧
      traducirDirLogica config proc dirLogica tamanio =
        some (seg.base + dirLogica % config.segmentMaxSize.toUInt32) ∧
      mmuTraducirDirLogica config.segmentMaxSize.toUInt32 sticks contexto dirLogica tamanio =
        (distribuir tamanio.toNat sticks (seg.base + dirLogica % config.segmentMaxSize.toUInt32)
          tamanio).map (seg.base + dirLogica % config.segmentMaxSize.toUInt32, ·) := by
  simp only [traducirDirLogica, mmuTraducirDirLogica, mmuTraducir, buscarSegmento, hcontexto]
  cases hbusca : proc.segmentos.find? (fun s ↦ s.id = dirLogica / config.segmentMaxSize.toUInt32) with
  | none =>
    left
    exact ⟨rfl, rfl, by rintro seg ⟨⟩⟩
  | some seg =>
    obtain ⟨hresidente, hram⟩ := hresidentes seg (List.mem_of_find?_eq_some hbusca)
    by_cases hlimite : dirLogica % config.segmentMaxSize.toUInt32 + tamanio > seg.limite
    · left
      refine ⟨if_pos hlimite, if_pos hlimite, fun otro hotro ↦ ?_⟩
      obtain rfl := Option.some.inj hotro
      exact hlimite
    · right
      refine ⟨seg, rfl, hlimite, hram, ?_, if_neg hlimite⟩
      simp only [if_neg hlimite]
      exact if_neg hresidente

/-- The CPU and Kernel Memory accept the same requests and serve them with the same requests to the
sticks. -/
theorem caminos_iguales (hcontexto : contexto.tablaSegmentos = proc.segmentos)
    (hram : ram.Plana) (htotal : sumaSticks ram.tabla < 2 ^ 32 - 1)
    (hresidentes : Residentes ram.tabla proc.segmentos) (hsticks : MismosSticks sticks ram.tabla)
    (hfin : (dirLogica % config.segmentMaxSize.toUInt32).toNat + tamanio.toNat < 2 ^ 32) :
    (traducirDirLogica config proc dirLogica tamanio = none ∧
      mmuTraducirDirLogica config.segmentMaxSize.toUInt32 sticks contexto dirLogica tamanio = none) ∨
    ∃ dir piezas, traducirDirLogica config proc dirLogica tamanio = some dir ∧ dir ≠ sinBase ∧
      mmuTraducirDirLogica config.segmentMaxSize.toUInt32 sticks contexto dirLogica tamanio =
        some (dir, piezas) ∧
      piezas.map (TraduccionFisica.acceso sticks) = (accesos ram.tabla dir tamanio).1.map some ∧
      (accesos ram.tabla dir tamanio).2 = true ∧ piezas.length ≤ ram.tabla.length ∧
      (∃ datos, mmuLeer config.segmentMaxSize.toUInt32 ram.tabla sticks contexto dirLogica tamanio =
          some (.ok datos) ∧ memoryIoLeer ram dir tamanio = (.ok datos, ram)) ∧
      ∀ datos, ∃ tabla, mmuEscribir config.segmentMaxSize.toUInt32 ram.tabla sticks contexto dirLogica
          datos tamanio = (.continuar, tabla) ∧
        memoryIoEscribir ram dir tamanio datos = (.ok (), { ram with tabla := tabla }) := by
  obtain ⟨hkm, hcpu, _⟩ | ⟨seg, _, hlimite, hsegmento, hkm, hcpu⟩ :=
    traducir_cases config sticks dirLogica tamanio hcontexto hresidentes
  · exact Or.inl ⟨hkm, hcpu⟩
  · right
    have hle := UInt32.le_iff_toNat_le.mp (UInt32.not_lt.mp hlimite)
    rw [toNat_add_of_lt hfin] at hle
    have hdir : (seg.base + dirLogica % config.segmentMaxSize.toUInt32).toNat =
        seg.base.toNat + (dirLogica % config.segmentMaxSize.toUInt32).toNat :=
      toNat_add_of_lt (by omega)
    have hdentro : (seg.base + dirLogica % config.segmentMaxSize.toUInt32).toNat + tamanio.toNat ≤
        ram.total := by
      rw [hram.total_eq]
      omega
    have hcompleta : (accesos ram.tabla (seg.base + dirLogica % config.segmentMaxSize.toUInt32)
        tamanio).2 = true := hram.toSana.accesosIo_completa _ hdentro
    have hsockets : ∀ entrada ∈ sticks, entrada.socket ≠ -1 := by
      intro entrada hentrada
      obtain ⟨_, _, _, _, hsocket⟩ := hsticks.fiel entrada hentrada
      exact hsocket
    obtain ⟨hfalta, _⟩ | ⟨_, piezas, hpiezas, hmapa⟩ := distribuir_accesos hsticks hram.bases
      hram.abiertos hram.suma_lt tamanio.toNat (seg.base + dirLogica % config.segmentMaxSize.toUInt32)
      tamanio
    · exact absurd (hfalta.symm.trans hcompleta) Bool.false_ne_true
    · rw [hpiezas, Option.map_some] at hcpu
      obtain ⟨datos, hdatos, hleer⟩ := memoryIoLeer_servir hram.sinCortes hcompleta
      refine ⟨_, piezas, hkm, ?_, hcpu, hmapa, hcompleta, ?_, ⟨datos, ?_, hleer⟩, fun datos ↦ ⟨_, ?_,
        memoryIoEscribir_servir hram.sinCortes datos hcompleta⟩⟩
      · intro hsin
        rw [hsin, toNat_sinBase] at hdir
        omega
      · have hlargo := length_accesos_le hram.bases hram.suma_lt
          (seg.base + dirLogica % config.segmentMaxSize.toUInt32) tamanio
        have hpiezasLargo := congrArg List.length hmapa
        rw [List.length_map, List.length_map] at hpiezasLargo
        exact hpiezasLargo.trans_le hlargo
      · simp only [mmuLeer, hcpu]
        exact leerPiezas_eq hsockets hmapa hdatos
      · simp only [mmuEscribir, hcpu]
        apply escribirPiezas_eq hsockets hmapa
        intro acceso hacceso
        obtain ⟨stick, hget, _⟩ := accesosIo_dentro _ _ _ _ acceso hacceso
        exact (List.getElem?_eq_some_iff.mp hget).1

/-! ## Isolation -/

/-- The range lies in the segment with this id. -/
def SegmentoContiene (segmentos : List Segmento) (numSegmento dir tamanio : UInt32) : Prop :=
  ∃ seg, segmentos.find? (fun s ↦ s.id = numSegmento) = some seg ∧ seg.base.toNat ≤ dir.toNat ∧
    dir.toNat + tamanio.toNat ≤ seg.base.toNat + seg.limite.toNat

/-- An address that `traducir_dir_logica` returns is the start of a range of the segment. -/
def AislaMemoria (config : ConfigMemory) (proc : Proceso) (dirLogica tamanio : UInt32) : Prop :=
  ∀ dir, traducirDirLogica config proc dirLogica tamanio = some dir → dir ≠ sinBase →
    SegmentoContiene proc.segmentos (dirLogica / config.segmentMaxSize.toUInt32) dir tamanio

/-- An address that `mmu_traducir_dir_logica` accepts is the start of a range of the segment. -/
def AislaCpu (segmentMaxSize : UInt32) (sticks : List CpuStick) (contexto : Contexto)
    (dirLogica tamanio : UInt32) : Prop :=
  ∀ dir piezas, mmuTraducirDirLogica segmentMaxSize sticks contexto dirLogica tamanio =
      some (dir, piezas) →
    SegmentoContiene contexto.tablaSegmentos (dirLogica / segmentMaxSize) dir tamanio

/-- For the segment of the address, if there is one: the end offset does not wrap, or it passes the limit
all the same, or the address is the one that stands for none. -/
def SinDesborde (segmentMaxSize : UInt32) (segmentos : List Segmento) (dirLogica tamanio : UInt32) :
    Prop :=
  ∀ seg ∈ segmentos.find? fun s ↦ s.id = dirLogica / segmentMaxSize,
    (dirLogica % segmentMaxSize).toNat + tamanio.toNat < 2 ^ 32 ∨
      2 ^ 32 + seg.limite.toNat < (dirLogica % segmentMaxSize).toNat + tamanio.toNat ∨
      seg.base.toNat + (dirLogica % segmentMaxSize).toNat = 2 ^ 32 - 1

/-- The same for the CPU, which refuses as well where the sticks end before the range does. -/
def SinDesbordeCpu (segmentMaxSize : UInt32) (segmentos : List Segmento) (dirLogica tamanio : UInt32) :
    Prop :=
  ∀ seg ∈ segmentos.find? fun s ↦ s.id = dirLogica / segmentMaxSize,
    (dirLogica % segmentMaxSize).toNat + tamanio.toNat < 2 ^ 32 ∨
      2 ^ 32 + seg.limite.toNat < (dirLogica % segmentMaxSize).toNat + tamanio.toNat ∨
      seg.base.toNat + (dirLogica % segmentMaxSize).toNat < 2 ^ 32

theorem toNat_suma_desborda {a b : UInt32} (h : 2 ^ 32 ≤ a.toNat + b.toNat) :
    (a + b).toNat = a.toNat + b.toNat - 2 ^ 32 := by
  have ha := a.toNat_lt
  have hb := b.toNat_lt
  rw [UInt32.toNat_add]
  omega

/-- The segment found is the one of the statement. -/
theorem segmentoContiene_iff {segmentos : List Segmento} {numSegmento dir tam : UInt32} {seg : Segmento}
    (hseg : segmentos.find? (fun s ↦ s.id = numSegmento) = some seg) :
    SegmentoContiene segmentos numSegmento dir tam ↔ seg.base.toNat ≤ dir.toNat ∧
      dir.toNat + tam.toNat ≤ seg.base.toNat + seg.limite.toNat := by
  constructor
  · intro ⟨otro, hotro, hrango⟩
    obtain rfl := Option.some.inj (hseg.symm.trans hotro)
    exact hrango
  · exact fun hrango ↦ ⟨seg, hseg, hrango⟩

/-- The address of an accepted request, by whether the offset and then the address wrap. -/
theorem rango_cases {seg : Segmento} {desplazamiento tam : UInt32} {total : ℕ} (htotal : total < 2 ^ 32)
    (hlimite : ¬ desplazamiento + tam > seg.limite)
    (hsegmento : seg.base.toNat + seg.limite.toNat ≤ total) :
    (desplazamiento.toNat + tam.toNat < 2 ^ 32 ∧
      (seg.base + desplazamiento).toNat = seg.base.toNat + desplazamiento.toNat ∧
      desplazamiento.toNat + tam.toNat ≤ seg.limite.toNat) ∨
    (2 ^ 32 ≤ desplazamiento.toNat + tam.toNat ∧
      desplazamiento.toNat + tam.toNat ≤ 2 ^ 32 + seg.limite.toNat ∧
      ((seg.base.toNat + desplazamiento.toNat < 2 ^ 32 ∧
          (seg.base + desplazamiento).toNat = seg.base.toNat + desplazamiento.toNat) ∨
        (2 ^ 32 ≤ seg.base.toNat + desplazamiento.toNat ∧
          (seg.base + desplazamiento).toNat = seg.base.toNat + desplazamiento.toNat - 2 ^ 32))) := by
  have hle := UInt32.le_iff_toNat_le.mp (UInt32.not_lt.mp hlimite)
  rcases Nat.lt_or_ge (desplazamiento.toNat + tam.toNat) (2 ^ 32) with hlt | hge
  · rw [toNat_add_of_lt hlt] at hle
    exact Or.inl ⟨hlt, toNat_add_of_lt (by omega), hle⟩
  · rw [toNat_suma_desborda hge] at hle
    refine Or.inr ⟨hge, by omega, ?_⟩
    rcases Nat.lt_or_ge (seg.base.toNat + desplazamiento.toNat) (2 ^ 32) with hbase | hbase
    · exact Or.inl ⟨hbase, toNat_add_of_lt hbase⟩
    · exact Or.inr ⟨hbase, toNat_suma_desborda hbase⟩

/-- Kernel Memory isolates a request exactly without the overflow. -/
theorem aislaMemoria_iff (hram : ram.Plana) (hresidentes : Residentes ram.tabla proc.segmentos) :
    AislaMemoria config proc dirLogica tamanio ↔
      SinDesborde config.segmentMaxSize.toUInt32 proc.segmentos dirLogica tamanio := by
  unfold SinDesborde
  obtain ⟨hkm, _, hlimite⟩ | ⟨seg, hseg, hlimite, hsegmento, hkm, _⟩ :=
    traducir_cases config [] dirLogica tamanio
      (show (⟨0, .cero, proc.segmentos⟩ : Contexto).tablaSegmentos = proc.segmentos from rfl) hresidentes
  · -- refused: there is no segment, or the sum passes the limit after it wrapped
    refine iff_of_true (fun dir hdir ↦ by rw [hkm] at hdir; cases hdir) fun seg hseg ↦ ?_
    have hgt := UInt32.lt_iff_toNat_lt.mp (hlimite seg hseg)
    rcases Nat.lt_or_ge ((dirLogica % config.segmentMaxSize.toUInt32).toNat + tamanio.toNat) (2 ^ 32)
      with hlt | hge
    · exact Or.inl hlt
    · rw [toNat_suma_desborda hge] at hgt
      exact Or.inr (Or.inl (by omega))
  · have hsuma := hram.suma_lt
    have hvalor := (dirLogica % config.segmentMaxSize.toUInt32).toNat_lt
    have haisla : AislaMemoria config proc dirLogica tamanio ↔
        (seg.base + dirLogica % config.segmentMaxSize.toUInt32 ≠ sinBase →
          SegmentoContiene proc.segmentos (dirLogica / config.segmentMaxSize.toUInt32)
            (seg.base + dirLogica % config.segmentMaxSize.toUInt32) tamanio) := by
      constructor
      · intro h
        exact h _ hkm
      · intro h dir hdir
        obtain rfl := Option.some.inj (hkm.symm.trans hdir)
        exact h
    rw [haisla, segmentoContiene_iff hseg, hseg]
    simp only [Option.mem_some_iff, forall_eq']
    rw [Ne, ← UInt32.toNat_inj, toNat_sinBase]
    obtain ⟨hlt, hdir, hcabe⟩ | ⟨hge, hcabe, ⟨hbase, hdir⟩ | ⟨hbase, hdir⟩⟩ :=
      rango_cases hram.suma_lt hlimite hsegmento
    · omega
    · omega
    · omega

/-- The CPU isolates a request exactly when the address does not wrap as well. -/
theorem aislaCpu_iff (hcontexto : contexto.tablaSegmentos = proc.segmentos) (hram : ram.Plana)
    (hresidentes : Residentes ram.tabla proc.segmentos) (hsticks : MismosSticks sticks ram.tabla) :
    AislaCpu config.segmentMaxSize.toUInt32 sticks contexto dirLogica tamanio ↔
      SinDesbordeCpu config.segmentMaxSize.toUInt32 proc.segmentos dirLogica tamanio := by
  unfold SinDesbordeCpu AislaCpu
  rw [hcontexto]
  obtain ⟨_, hcpu, hlimite⟩ | ⟨seg, hseg, hlimite, hsegmento, _, hcpu⟩ :=
    traducir_cases config sticks dirLogica tamanio hcontexto hresidentes
  · refine iff_of_true (fun dir piezas hdir ↦ by rw [hcpu] at hdir; cases hdir) fun seg hseg ↦ ?_
    have hgt := UInt32.lt_iff_toNat_lt.mp (hlimite seg hseg)
    rcases Nat.lt_or_ge ((dirLogica % config.segmentMaxSize.toUInt32).toNat + tamanio.toNat) (2 ^ 32)
      with hlt | hge
    · exact Or.inl hlt
    · rw [toNat_suma_desborda hge] at hgt
      exact Or.inr (Or.inl (by omega))
  · have hsuma := hram.suma_lt
    have hvalor := (dirLogica % config.segmentMaxSize.toUInt32).toNat_lt
    have htam := tamanio.toNat_lt
    rw [hseg]
    simp only [Option.mem_some_iff, forall_eq']
    -- the CPU accepts exactly what lies in RAM
    have hacepta : (∃ piezas, mmuTraducirDirLogica config.segmentMaxSize.toUInt32 sticks contexto
        dirLogica tamanio = some (seg.base + dirLogica % config.segmentMaxSize.toUInt32, piezas)) ↔
        (accesos ram.tabla (seg.base + dirLogica % config.segmentMaxSize.toUInt32) tamanio).2 =
          true := by
      obtain ⟨hfalta, hnada⟩ | ⟨hcompleta, piezas, hpiezas, _⟩ := distribuir_accesos hsticks hram.bases
        hram.abiertos hram.suma_lt tamanio.toNat
        (seg.base + dirLogica % config.segmentMaxSize.toUInt32) tamanio
      · refine iff_of_false (fun ⟨piezas, hpiezas⟩ ↦ ?_) (by rw [accesos, hfalta]; exact nofun)
        rw [hcpu, hnada] at hpiezas
        cases hpiezas
      · exact iff_of_true ⟨piezas, by rw [hcpu, hpiezas, Option.map_some]⟩ hcompleta
    have haisla : (∀ dir piezas, mmuTraducirDirLogica config.segmentMaxSize.toUInt32 sticks contexto
          dirLogica tamanio = some (dir, piezas) →
        SegmentoContiene proc.segmentos (dirLogica / config.segmentMaxSize.toUInt32) dir tamanio) ↔
        ((accesos ram.tabla (seg.base + dirLogica % config.segmentMaxSize.toUInt32) tamanio).2 =
            true →
          SegmentoContiene proc.segmentos (dirLogica / config.segmentMaxSize.toUInt32)
            (seg.base + dirLogica % config.segmentMaxSize.toUInt32) tamanio) := by
      constructor
      · intro h hcompleta
        obtain ⟨piezas, hpiezas⟩ := hacepta.mpr hcompleta
        exact h _ piezas hpiezas
      · intro h dir piezas hdir
        have hsame : dir = seg.base + dirLogica % config.segmentMaxSize.toUInt32 := by
          rw [hcpu] at hdir
          obtain ⟨_, _, hpar⟩ := Option.map_eq_some_iff.mp hdir
          exact (congrArg Prod.fst hpar).symm
        rw [hsame] at hdir ⊢
        exact h (hacepta.mp ⟨piezas, hdir⟩)
    rw [haisla, segmentoContiene_iff hseg]
    obtain ⟨hlt, hdir, hcabe⟩ | ⟨hge, hcabe, ⟨hbase, hdir⟩ | ⟨hbase, hdir⟩⟩ :=
      rango_cases hram.suma_lt hlimite hsegmento
    · exact iff_of_true (fun _ ↦ by omega) (Or.inl hlt)
    · -- the range would end past RAM
      refine iff_of_true (fun hcompleta ↦ ?_) (Or.inr (Or.inr hbase))
      exact absurd hcompleta (Bool.not_eq_true _ ▸ hram.incompleta (by omega) (by omega))
    · have hcompleta : (accesos ram.tabla (seg.base + dirLogica % config.segmentMaxSize.toUInt32)
          tamanio).2 = true :=
        hram.toSana.accesosIo_completa _ (by rw [hram.total_eq]; omega)
      refine iff_of_false (fun h ↦ ?_) (by omega)
      have := h hcompleta
      omega

/-- Translation isolates the process, on both paths, exactly when the end offset of the request does not
wrap into the segment. -/
theorem aislamiento_iff (hcontexto : contexto.tablaSegmentos = proc.segmentos) (hram : ram.Plana)
    (hresidentes : Residentes ram.tabla proc.segmentos) (hsticks : MismosSticks sticks ram.tabla) :
    ((AislaMemoria config proc dirLogica tamanio ∧
        AislaCpu config.segmentMaxSize.toUInt32 sticks contexto dirLogica tamanio) ↔
      SinDesborde config.segmentMaxSize.toUInt32 proc.segmentos dirLogica tamanio) ∧
    (AislaCpu config.segmentMaxSize.toUInt32 sticks contexto dirLogica tamanio ↔
      SinDesbordeCpu config.segmentMaxSize.toUInt32 proc.segmentos dirLogica tamanio) := by
  have hcpu : AislaCpu config.segmentMaxSize.toUInt32 sticks contexto dirLogica tamanio ↔
      SinDesbordeCpu config.segmentMaxSize.toUInt32 proc.segmentos dirLogica tamanio :=
    aislaCpu_iff hcontexto hram hresidentes hsticks
  refine ⟨?_, hcpu⟩
  rw [aislaMemoria_iff hram hresidentes, hcpu]
  refine ⟨fun h ↦ h.1, fun h ↦ ⟨h, fun seg hseg ↦ ?_⟩⟩
  rcases h seg hseg with hlt | hgt | heq
  · exact Or.inl hlt
  · exact Or.inr (Or.inl hgt)
  · exact Or.inr (Or.inr (by omega))

end Caminos

/-! ## Concrete requests -/

/-- Three sticks that register with Kernel Memory, one of them empty. -/
def ramTresSticks : Ram :=
  (registrarSticks sinSticks [(⟨1, 6, "a", "1", fun _ ↦ 7⟩, 4), (⟨2, 0, "b", "2", fun _ ↦ 0⟩, 5),
    (⟨3, 10, "c", "3", fun _ ↦ 9⟩, 6)]).ram

/-- A CPU that heard of them in another order. -/
def cpuTresSticks : List CpuStick := [⟨8, 6, 10, 2⟩, ⟨9, 0, 6, 0⟩, ⟨10, 6, 0, 1⟩]

theorem plana_ramTresSticks : ramTresSticks.Plana :=
  ⟨sana_sinSticks.registrarSticks (by decide), by decide⟩

theorem mismosSticks_cpuTresSticks : MismosSticks cpuTresSticks ramTresSticks.tabla where
  fiel := by
    intro entrada hentrada
    simp only [cpuTresSticks, List.mem_cons, List.not_mem_nil, or_false] at hentrada
    rcases hentrada with rfl | rfl | rfl <;> exact ⟨_, rfl, rfl, rfl, by decide⟩
  todos := by
    intro idx stick hget
    have hlt := (List.getElem?_eq_some_iff.mp hget).1
    have hlargo : ramTresSticks.tabla.length = 3 := rfl
    rw [hlargo] at hlt
    interval_cases idx <;> decide

/-- A process with one segment over the boundary of two sticks. -/
def procesoDeTresSticks : Proceso := ⟨1, .cero, [⟨0, 3, 8, sinBase⟩], []⟩

/-- A read and a write over the boundary. -/
theorem caminos_iguales_tres_sticks :
    let tras := mmuTraducirDirLogica 1024 cpuTresSticks ⟨1, .cero, procesoDeTresSticks.segmentos⟩ 1 5
    (traducirDirLogica ⟨1024, none⟩ procesoDeTresSticks 1 5 = none ∧ tras = none) ∨
    ∃ dir piezas, traducirDirLogica ⟨1024, none⟩ procesoDeTresSticks 1 5 = some dir ∧ dir ≠ sinBase ∧
      tras = some (dir, piezas) ∧
      piezas.map (TraduccionFisica.acceso cpuTresSticks) =
        (accesos ramTresSticks.tabla dir 5).1.map some ∧
      (accesos ramTresSticks.tabla dir 5).2 = true ∧ piezas.length ≤ ramTresSticks.tabla.length ∧
      (∃ datos, mmuLeer 1024 ramTresSticks.tabla cpuTresSticks ⟨1, .cero, procesoDeTresSticks.segmentos⟩
          1 5 = some (.ok datos) ∧ memoryIoLeer ramTresSticks dir 5 = (.ok datos, ramTresSticks)) ∧
      ∀ datos, ∃ tabla, mmuEscribir 1024 ramTresSticks.tabla cpuTresSticks
          ⟨1, .cero, procesoDeTresSticks.segmentos⟩ 1 datos 5 = (.continuar, tabla) ∧
        memoryIoEscribir ramTresSticks dir 5 datos = (.ok (), { ramTresSticks with tabla := tabla }) :=
  @caminos_iguales ⟨1024, none⟩ procesoDeTresSticks ⟨1, .cero, procesoDeTresSticks.segmentos⟩
    ramTresSticks cpuTresSticks 1 5 rfl plana_ramTresSticks (by decide) (by decide)
    mismosSticks_cpuTresSticks (by decide)

theorem aislamiento_iff_tres_sticks :
    ((AislaMemoria ⟨1024, none⟩ procesoDeTresSticks 1 5 ∧
        AislaCpu 1024 cpuTresSticks ⟨1, .cero, procesoDeTresSticks.segmentos⟩ 1 5) ↔
      SinDesborde 1024 procesoDeTresSticks.segmentos 1 5) ∧
    (AislaCpu 1024 cpuTresSticks ⟨1, .cero, procesoDeTresSticks.segmentos⟩ 1 5 ↔
      SinDesbordeCpu 1024 procesoDeTresSticks.segmentos 1 5) :=
  @aislamiento_iff ⟨1024, none⟩ procesoDeTresSticks ⟨1, .cero, procesoDeTresSticks.segmentos⟩
    ramTresSticks cpuTresSticks 1 5 rfl plana_ramTresSticks (by decide) mismosSticks_cpuTresSticks

/-- Two sticks of the largest size a configuration file can ask for. -/
def ramGrande : Ram :=
  (registrarSticks sinSticks [(⟨1, 2147483647, "a", "1", fun _ ↦ 0⟩, 4),
    (⟨2, 2147483647, "b", "2", fun _ ↦ 0⟩, 5)]).ram

def cpuGrande : List CpuStick := [⟨8, 0, 2147483647, 0⟩, ⟨9, 2147483647, 2147483647, 1⟩]

/-- A segment in the second stick. -/
def segmentoAlto : Segmento := ⟨0, 2147483660, 16, sinBase⟩

/-- The sum of offset and size wraps into the segment: Kernel Memory translates a range of almost
`2 ^ 32` bytes, and the CPU one that lies before the segment and fills the RAM below it. -/
theorem desborde_no_aislado :
    Residentes ramTresSticks.tabla procesoDeTresSticks.segmentos ∧
      Residentes ramGrande.tabla [segmentoAlto] ∧
      traducirDirLogica ⟨1024, none⟩ procesoDeTresSticks 2 4294967295 = some 5 ∧
      ¬ SegmentoContiene procesoDeTresSticks.segmentos 0 5 4294967295 ∧
      mmuTraducirDirLogica 2147483647 cpuGrande ⟨1, .cero, [segmentoAlto]⟩ 2147483646 2147483654 =
        some (10, [⟨0, 10, 2147483637⟩, ⟨1, 0, 17⟩]) ∧
      ¬ SegmentoContiene [segmentoAlto] 0 10 2147483654 := by
  refine ⟨by decide, by decide, rfl, ?_, rfl, ?_⟩
  · have hbusca : procesoDeTresSticks.segmentos.find? (fun s ↦ s.id = 0) = some ⟨0, 3, 8, sinBase⟩ := rfl
    rw [segmentoContiene_iff hbusca]
    decide
  · have hbusca : [segmentoAlto].find? (fun s ↦ s.id = 0) = some segmentoAlto := rfl
    rw [segmentoContiene_iff hbusca]
    decide

end PlugAndPlay.Cpu
