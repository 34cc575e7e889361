import GrammarAssay.FileTree.Change
import GrammarAssay.Platform.Names
import GrammarAssay.Text.Words

/-!
# The system on which the program runs

**Input.** Every program is started with some libraries of the system, and others are installed where a
library is looked for at last.

**Results.**
* `Platform.startNames`, `Platform.startLibrary`: the libraries that every program is started with.
* `Platform.directories`: where a library is looked for at last.
* `Platform.install`: a file tree with the libraries of the system.
-/

namespace GrammarAssay
namespace Platform

/-- The names of the libraries that every program is started with. The program itself has no name. -/
def startNames : List Path :=
  ["", "linux-vdso.so.1", "libc.so.6", "/lib/x86_64-linux-gnu/libc.so.6", "libgcc_s.so.1",
    "/lib/x86_64-linux-gnu/libgcc_s.so.1", "ld-linux-x86-64.so.2",
    "/lib64/ld-linux-x86-64.so.2"].map Path.ofString

/-- What the libraries define that every program is started with. -/
def startLibrary : Library :=
  ⟨Text.words startLines, none⟩

/-- The directories in which a library is looked for at last. -/
def directories : List Path :=
  ["/lib/x86_64-linux-gnu/", "/usr/lib/x86_64-linux-gnu/", "/lib/", "/usr/lib/"].map Path.ofString

/-- The directories below those in which the libraries for a fast processor stand. -/
def fastDirectories : List String :=
  ["glibc-hwcaps/x86-64-v4/", "glibc-hwcaps/x86-64-v3/", "glibc-hwcaps/x86-64-v2/"]

/-- The library of mathematical functions. -/
def mathLibrary : Library :=
  ⟨Text.words mathLines, none⟩

/-- A library in which nothing is looked up. -/
def plainLibrary : Library :=
  ⟨[], none⟩

/-- The names of the installed libraries in which nothing is looked up. -/
def installedLines : List String :=
  ["libBrokenLocale.so.1 libacl.so.1 libanl.so.1 libapt-pkg.so.6.0 libattr.so.1 libaudit.so.1",
   "libblkid.so.1 libbz2.so.1 libbz2.so.1.0 libc_malloc_debug.so.0 libcap-ng.so.0 libcap.so.2",
   "libcom_err.so.2 libcrypt.so.1 libdb-5.3.so libdebconfclient.so.0 libdl.so.2 libe2p.so.2",
   "libext2fs.so.2 libffi.so.8 libgcrypt.so.20 libgmp.so.10 libgnutls.so.30 libgpg-error.so.0",
   "libhogweed.so.6 libidn2.so.0 liblz4.so.1 liblzma.so.5 libmd.so.0 libmemusage.so libmount.so.1",
   "libmvec.so.1 libnettle.so.8 libnsl.so.1 libnss_compat.so.2 libnss_dns.so.2",
   "libnss_files.so.2 libnss_hesiod.so.2 libp11-kit.so.0 libpam.so.0 libpam_misc.so.0",
   "libpamc.so.0 libpcprofile.so libpcre2-8.so.0 libpthread.so.0 libresolv.so.2 librt.so.1",
   "libseccomp.so.2 libselinux.so.1 libsemanage.so.2 libsepol.so.2 libsmartcols.so.1 libss.so.2",
   "libstdc++.so.6 libsystemd.so.0 libtasn1.so.6 libthread_db.so.1 libtinfo.so.6 libudev.so.1",
   "libutil.so.1 libuuid.so.1 libxxhash.so.0 libz.so.1 libzstd.so.1"]

/-- The installed libraries with their names. -/
def installed : List (String × Library) :=
  [("libc.so.6", startLibrary), ("libgcc_s.so.1", plainLibrary),
    ("ld-linux-x86-64.so.2", plainLibrary), ("libm.so.6", mathLibrary)] ++
    (Text.words installedLines).map fun name => (name, plainLibrary)

/-- The directory in which the libraries of the system are installed. -/
def libraryDirectory : String := "/usr/lib/x86_64-linux-gnu/"

/-- The tree with one more library of the system. -/
def installLibrary (t : FileTree) (name : String) (lib : Library) : FileTree :=
  t.write (Path.ofString (libraryDirectory ++ name)) (.library lib)

/-- The tree with the libraries of the system. -/
def install (t : FileTree) : FileTree :=
  let t := installed.foldl (fun t e => installLibrary t e.1 e.2) t
  let t := t.makeLink (Path.ofString "/lib") (Path.ofString "usr/lib")
  let t := t.makeLink (Path.ofString "/lib64") (Path.ofString "usr/lib64")
  t.makeLink (Path.ofString "/usr/lib64/ld-linux-x86-64.so.2")
    (Path.ofString "/lib/x86_64-linux-gnu/ld-linux-x86-64.so.2")

end Platform
end GrammarAssay
