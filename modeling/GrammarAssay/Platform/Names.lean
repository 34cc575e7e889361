/-!
# Names that the libraries of the system define
-/

namespace GrammarAssay
namespace Platform

/-- The names that the libraries define with which every program is started, several to a line. -/
def startLines : List String :=
  ["_Exit _Fork _IO_2_1_stderr_ _IO_2_1_stdin_ _IO_2_1_stdout_ _IO_adjust_column",
   "_IO_adjust_wcolumn _IO_default_doallocate _IO_default_finish _IO_default_pbackfail",
   "_IO_default_uflow _IO_default_xsgetn _IO_default_xsputn _IO_do_write _IO_doallocbuf",
   "_IO_fclose _IO_fdopen _IO_feof _IO_ferror _IO_fflush _IO_fgetpos _IO_fgetpos64 _IO_fgets",
   "_IO_file_attach _IO_file_close _IO_file_close_it _IO_file_doallocate _IO_file_finish",
   "_IO_file_fopen _IO_file_init _IO_file_jumps _IO_file_open _IO_file_overflow",
   "_IO_file_read _IO_file_seek _IO_file_seekoff _IO_file_setbuf _IO_file_stat _IO_file_sync",
   "_IO_file_underflow _IO_file_write _IO_file_xsputn _IO_flockfile _IO_flush_all",
   "_IO_flush_all_linebuffered _IO_fopen _IO_fprintf _IO_fputs _IO_fread",
   "_IO_free_backup_area _IO_free_wbackup_area _IO_fsetpos _IO_fsetpos64 _IO_ftell",
   "_IO_ftrylockfile _IO_funlockfile _IO_fwrite _IO_getc _IO_getline _IO_getline_info",
   "_IO_gets _IO_init _IO_init_marker _IO_init_wmarker _IO_iter_begin _IO_iter_end",
   "_IO_iter_file _IO_iter_next _IO_least_wmarker _IO_link_in _IO_list_all _IO_list_lock",
   "_IO_list_resetlock _IO_list_unlock _IO_marker_delta _IO_marker_difference _IO_padn",
   "_IO_peekc_locked _IO_popen _IO_printf _IO_proc_close _IO_proc_open _IO_putc _IO_puts",
   "_IO_remove_marker _IO_seekmark _IO_seekoff _IO_seekpos _IO_seekwmark _IO_setb",
   "_IO_setbuffer _IO_setvbuf _IO_sgetn _IO_sprintf _IO_sputbackc _IO_sputbackwc _IO_sscanf",
   "_IO_str_init_readonly _IO_str_init_static _IO_str_overflow _IO_str_pbackfail",
   "_IO_str_seekoff _IO_str_underflow _IO_sungetc _IO_sungetwc _IO_switch_to_get_mode",
   "_IO_switch_to_main_wget_area _IO_switch_to_wbackup_area _IO_switch_to_wget_mode",
   "_IO_un_link _IO_ungetc _IO_unsave_markers _IO_unsave_wmarkers _IO_vfprintf _IO_vfscanf",
   "_IO_vsprintf _IO_wdefault_doallocate _IO_wdefault_finish _IO_wdefault_pbackfail",
   "_IO_wdefault_uflow _IO_wdefault_xsgetn _IO_wdefault_xsputn _IO_wdo_write _IO_wdoallocbuf",
   "_IO_wfile_jumps _IO_wfile_overflow _IO_wfile_seekoff _IO_wfile_sync _IO_wfile_underflow",
   "_IO_wfile_xsputn _IO_wmarker_delta _IO_wsetb _Unwind_Backtrace _Unwind_DeleteException",
   "_Unwind_FindEnclosingFunction _Unwind_Find_FDE _Unwind_ForcedUnwind _Unwind_GetCFA",
   "_Unwind_GetDataRelBase _Unwind_GetGR _Unwind_GetIP _Unwind_GetIPInfo",
   "_Unwind_GetLanguageSpecificData _Unwind_GetRegionStart _Unwind_GetTextRelBase",
   "_Unwind_RaiseException _Unwind_Resume _Unwind_Resume_or_Rethrow _Unwind_SetGR",
   "_Unwind_SetIP __adjtimex __after_morecore_hook __arch_prctl __argz_count __argz_next",
   "__argz_stringify __asprintf __asprintf_chk __assert __assert_fail __assert_perror_fail",
   "__backtrace __backtrace_symbols __backtrace_symbols_fd __bsd_getpgrp __bzero",
   "__check_rhosts_file __chk_fail __clone __close __cmsg_nxthdr __confstr_chk __connect",
   "__ctype32_b __ctype32_tolower __ctype32_toupper __ctype_b __ctype_b_loc",
   "__ctype_get_mb_cur_max __ctype_tolower __ctype_tolower_loc __ctype_toupper",
   "__ctype_toupper_loc __curbrk __cxa_at_quick_exit __cxa_atexit __cxa_finalize",
   "__cxa_thread_atexit_impl __cyg_profile_func_enter __cyg_profile_func_exit __daylight",
   "__dcgettext __default_morecore __deregister_frame __deregister_frame_info __dgettext",
   "__dn_comp __dn_expand __dn_skipname __dprintf_chk __dup2 __duplocale __endmntent",
   "__environ __errno_location __explicit_bzero_chk __fbufsize __fcntl __fdelt_chk",
   "__fdelt_warn __fentry__ __ffs __fgets_chk __fgets_unlocked_chk __fgetws_chk",
   "__fgetws_unlocked_chk __finite __finitef __finitel __flbf __fork __fpending",
   "__fprintf_chk __fpu_control __fpurge __fread_chk __fread_unlocked_chk __freadable",
   "__freading __free_hook __freelocale __fsetlocking __fwprintf_chk __fwritable __fwriting",
   "__fxstat __fxstat64 __fxstatat __fxstatat64 __getauxval __getcwd_chk __getdelim",
   "__getdomainname_chk __getgroups_chk __gethostname_chk __getlogin_r_chk __getmntent_r",
   "__getpagesize __getpgid __getpid __gets_chk __gettimeofday __getwd_chk __gmtime_r",
   "__h_errno_location __isalnum_l __isalpha_l __isascii_l __isblank_l __iscntrl_l __isctype",
   "__isdigit_l __isgraph_l __isinf __isinff __isinfl __islower_l __isnan __isnanf",
   "__isnanf128 __isnanl __isoc99_fscanf __isoc99_fwscanf __isoc99_scanf __isoc99_sscanf",
   "__isoc99_swscanf __isoc99_vfscanf __isoc99_vfwscanf __isoc99_vscanf __isoc99_vsscanf",
   "__isoc99_vswscanf __isoc99_vwscanf __isoc99_wscanf __isprint_l __ispunct_l __isspace_l",
   "__isupper_l __iswalnum_l __iswalpha_l __iswblank_l __iswcntrl_l __iswctype __iswctype_l",
   "__iswdigit_l __iswgraph_l __iswlower_l __iswprint_l __iswpunct_l __iswspace_l",
   "__iswupper_l __iswxdigit_l __isxdigit_l __ivaliduser __key_decryptsession_pk_LOCAL",
   "__key_encryptsession_pk_LOCAL __key_gendes_LOCAL __libc_allocate_rtsig __libc_calloc",
   "__libc_current_sigrtmax __libc_current_sigrtmin __libc_free __libc_freeres",
   "__libc_init_first __libc_mallinfo __libc_malloc __libc_mallopt __libc_memalign",
   "__libc_pvalloc __libc_realloc __libc_sa_len __libc_single_threaded __libc_stack_end",
   "__libc_start_main __libc_valloc __longjmp_chk __lseek __lxstat __lxstat64 __malloc_hook",
   "__malloc_initialize_hook __mbrlen __mbrtowc __mbsnrtowcs_chk __mbsrtowcs_chk",
   "__mbstowcs_chk __memalign_hook __memcmpeq __memcpy_chk __memmove_chk __mempcpy",
   "__mempcpy_chk __mempcpy_small __memset_chk __monstartup __morecore __mq_open_2",
   "__nanosleep __newlocale __nl_langinfo_l __nss_configure_lookup __nss_database_lookup",
   "__nss_group_lookup __nss_hostname_digits_dots __nss_hosts_lookup __nss_next",
   "__nss_passwd_lookup __obstack_printf_chk __obstack_vprintf_chk __open __open64",
   "__open64_2 __open_2 __openat64_2 __openat_2 __overflow __pipe __poll __poll_chk",
   "__posix_getopt __ppoll_chk __pread64 __pread64_chk __pread_chk __printf_chk __printf_fp",
   "__profile_frequency __progname __progname_full __pthread_cleanup_routine",
   "__pthread_getspecific __pthread_key_create __pthread_mutex_destroy __pthread_mutex_init",
   "__pthread_mutex_lock __pthread_mutex_trylock __pthread_mutex_unlock",
   "__pthread_mutexattr_destroy __pthread_mutexattr_init __pthread_mutexattr_settype",
   "__pthread_once __pthread_register_cancel __pthread_register_cancel_defer",
   "__pthread_rwlock_destroy __pthread_rwlock_init __pthread_rwlock_rdlock",
   "__pthread_rwlock_tryrdlock __pthread_rwlock_trywrlock __pthread_rwlock_unlock",
   "__pthread_rwlock_wrlock __pthread_setspecific __pthread_unregister_cancel",
   "__pthread_unregister_cancel_restore __pthread_unwind_next __ptsname_r_chk __pwrite64",
   "__rawmemchr __rcmd_errstr __read __read_chk __readlink_chk __readlinkat_chk",
   "__realloc_hook __realpath_chk __recv_chk __recvfrom_chk __register_atfork",
   "__register_frame __register_frame_info __res_dnok __res_hnok __res_init __res_mailok",
   "__res_mkquery __res_nclose __res_ninit __res_nmkquery __res_nquery __res_nquerydomain",
   "__res_nsearch __res_nsend __res_ownok __res_query __res_querydomain __res_randomid",
   "__res_search __res_send __res_state __rpc_thread_createerr __rpc_thread_svc_fdset",
   "__rpc_thread_svc_max_pollfd __rpc_thread_svc_pollfd __rseq_flags __rseq_offset",
   "__rseq_size __rtld_version_placeholder __sbrk __sched_cpualloc __sched_cpucount",
   "__sched_cpufree __sched_get_priority_max __sched_get_priority_min __sched_getparam",
   "__sched_getscheduler __sched_setscheduler __sched_yield __secure_getenv __select __send",
   "__setmntent __setpgid __sigaction __sigaddset __sigdelset __sigismember __signbit",
   "__signbitf __signbitl __sigpause __sigsetjmp __sigsuspend __snprintf_chk __sprintf_chk",
   "__stack_chk_fail __statfs __stpcpy __stpcpy_chk __stpcpy_small __stpncpy __stpncpy_chk",
   "__strcasecmp __strcasecmp_l __strcasestr __strcat_chk __strcoll_l __strcpy_chk",
   "__strcpy_small __strcspn_c1 __strcspn_c2 __strcspn_c3 __strdup __strerror_r __strfmon_l",
   "__strftime_l __strncasecmp_l __strncat_chk __strncpy_chk __strndup __strpbrk_c2",
   "__strpbrk_c3 __strsep_1c __strsep_2c __strsep_3c __strsep_g __strspn_c1 __strspn_c2",
   "__strspn_c3 __strtod_internal __strtod_l __strtof128_internal __strtof_internal",
   "__strtof_l __strtok_r __strtok_r_1c __strtol_internal __strtol_l __strtold_internal",
   "__strtold_l __strtoll_internal __strtoll_l __strtoul_internal __strtoul_l",
   "__strtoull_internal __strtoull_l __strverscmp __strxfrm_l __swprintf_chk __sysconf",
   "__sysctl __syslog_chk __sysv_signal __timezone __tls_get_addr __toascii_l __tolower_l",
   "__toupper_l __towctrans __towctrans_l __towlower_l __towupper_l __ttyname_r_chk __tzname",
   "__uflow __underflow __uselocale __vasprintf_chk __vdprintf_chk __vfork __vfprintf_chk",
   "__vfscanf __vfwprintf_chk __vprintf_chk __vsnprintf __vsnprintf_chk __vsprintf_chk",
   "__vsscanf __vswprintf_chk __vsyslog_chk __vwprintf_chk __wait __waitpid __wcpcpy_chk",
   "__wcpncpy_chk __wcrtomb_chk __wcscasecmp_l __wcscat_chk __wcscoll_l __wcscpy_chk",
   "__wcsftime_l __wcsncasecmp_l __wcsncat_chk __wcsncpy_chk __wcsnrtombs_chk",
   "__wcsrtombs_chk __wcstod_internal __wcstod_l __wcstof128_internal __wcstof_internal",
   "__wcstof_l __wcstol_internal __wcstol_l __wcstold_internal __wcstold_l",
   "__wcstoll_internal __wcstoll_l __wcstombs_chk __wcstoul_internal __wcstoul_l",
   "__wcstoull_internal __wcstoull_l __wcsxfrm_l __wctomb_chk __wctrans_l __wctype_l",
   "__wmemcpy_chk __wmemmove_chk __wmempcpy_chk __wmemset_chk __woverflow __wprintf_chk",
   "__write __wuflow __wunderflow __x86_get_cpuid_feature_leaf __xmknod __xmknodat",
   "__xpg_basename __xpg_sigpause __xpg_strerror_r __xstat __xstat64 _authenticate",
   "_dl_find_object _dl_mcount _dl_mcount_wrapper _dl_mcount_wrapper_check _environ _exit",
   "_flushlbf _libc_intl_domainname _longjmp _mcleanup _mcount _nl_default_dirname",
   "_nl_domain_bindings _nl_msg_cat_cntr _null_auth _obstack _obstack_allocated_p",
   "_obstack_begin _obstack_begin_1 _obstack_free _obstack_memory_used _obstack_newchunk",
   "_pthread_cleanup_pop _pthread_cleanup_pop_restore _pthread_cleanup_push",
   "_pthread_cleanup_push_defer _r_debug _res _res_hconf _rpc_dtablesize _seterr_reply",
   "_setjmp _sys_errlist _sys_nerr _sys_siglist _tolower _toupper a64l abort abs accept",
   "accept4 access acct addmntent addseverity adjtime adjtimex advance aio_cancel",
   "aio_cancel64 aio_error aio_error64 aio_fsync aio_fsync64 aio_init aio_read aio_read64",
   "aio_return aio_return64 aio_suspend aio_suspend64 aio_write aio_write64 alarm",
   "aligned_alloc alphasort alphasort64 arc4random arc4random_buf arc4random_uniform",
   "arch_prctl argp_err_exit_status argp_error argp_failure argp_help argp_parse",
   "argp_program_bug_address argp_program_version argp_program_version_hook argp_state_help",
   "argp_usage argz_add argz_add_sep argz_append argz_count argz_create argz_create_sep",
   "argz_delete argz_extract argz_insert argz_next argz_replace argz_stringify asctime",
   "asctime_r asprintf atof atoi atol atoll authdes_create authdes_getucred",
   "authdes_pk_create authnone_create authunix_create authunix_create_default backtrace",
   "backtrace_symbols backtrace_symbols_fd basename bcmp bcopy bdflush bind",
   "bind_textdomain_codeset bindresvport bindtextdomain brk bsd_signal bsearch btowc bzero",
   "c16rtomb c32rtomb c8rtomb call_once calloc callrpc canonicalize_file_name capget capset",
   "catclose catgets catopen cbc_crypt cfgetispeed cfgetospeed cfmakeraw cfree cfsetispeed",
   "cfsetospeed cfsetspeed chdir chflags chmod chown chroot clearenv clearerr",
   "clearerr_unlocked clnt_broadcast clnt_create clnt_pcreateerror clnt_perrno clnt_perror",
   "clnt_spcreateerror clnt_sperrno clnt_sperror clntraw_create clnttcp_create",
   "clntudp_bufcreate clntudp_create clntunix_create clock clock_adjtime clock_getcpuclockid",
   "clock_getres clock_gettime clock_nanosleep clock_settime clone close close_range",
   "closedir closefrom closelog cnd_broadcast cnd_destroy cnd_init cnd_signal cnd_timedwait",
   "cnd_wait confstr connect copy_file_range copysign copysignf copysignl creat creat64",
   "create_module ctermid ctime ctime_r cuserid daemon daylight dcgettext dcngettext",
   "delete_module des_setparity dgettext difftime dirfd dirname div dl_iterate_phdr dladdr",
   "dladdr1 dlclose dlerror dlinfo dlmopen dlopen dlsym dlvsym dn_comp dn_expand dn_skipname",
   "dngettext dprintf drand48 drand48_r dup dup2 dup3 duplocale dysize eaccess ecb_crypt",
   "ecvt ecvt_r endaliasent endfsent endgrent endhostent endmntent endnetent endnetgrent",
   "endprotoent endpwent endrpcent endservent endsgent endspent endttyent endusershell",
   "endutent endutxent environ envz_add envz_entry envz_get envz_merge envz_remove",
   "envz_strip epoll_create epoll_create1 epoll_ctl epoll_pwait epoll_pwait2 epoll_wait",
   "erand48 erand48_r err error error_at_line error_message_count error_one_per_line",
   "error_print_progname errx ether_aton ether_aton_r ether_hostton ether_line ether_ntoa",
   "ether_ntoa_r ether_ntohost euidaccess eventfd eventfd_read eventfd_write execl execle",
   "execlp execv execve execveat execvp execvpe exit explicit_bzero faccessat fallocate",
   "fallocate64 fanotify_init fanotify_mark fattach fchdir fchflags fchmod fchmodat fchown",
   "fchownat fclose fcloseall fcntl fcntl64 fcvt fcvt_r fdatasync fdetach fdopen fdopendir",
   "feof feof_unlocked ferror ferror_unlocked fexecve fflush fflush_unlocked ffs ffsl ffsll",
   "fgetc fgetc_unlocked fgetgrent fgetgrent_r fgetpos fgetpos64 fgetpwent fgetpwent_r fgets",
   "fgets_unlocked fgetsgent fgetsgent_r fgetspent fgetspent_r fgetwc fgetwc_unlocked fgetws",
   "fgetws_unlocked fgetxattr fileno fileno_unlocked finite finitef finitel flistxattr flock",
   "flockfile fmemopen fmtmsg fnmatch fopen fopen64 fopencookie fork forkpty fpathconf",
   "fprintf fputc fputc_unlocked fputs fputs_unlocked fputwc fputwc_unlocked fputws",
   "fputws_unlocked fread fread_unlocked free freeaddrinfo freeifaddrs freelocale",
   "fremovexattr freopen freopen64 frexp frexpf frexpl fscanf fsconfig fseek fseeko fseeko64",
   "fsetpos fsetpos64 fsetxattr fsmount fsopen fspick fstat fstat64 fstatat fstatat64",
   "fstatfs fstatfs64 fstatvfs fstatvfs64 fsync ftell ftello ftello64 ftime ftok ftruncate",
   "ftruncate64 ftrylockfile fts64_children fts64_close fts64_open fts64_read fts64_set",
   "fts_children fts_close fts_open fts_read fts_set ftw ftw64 funlockfile futimens futimes",
   "futimesat fwide fwprintf fwrite fwrite_unlocked fwscanf gai_cancel gai_error",
   "gai_strerror gai_suspend gcvt get_avphys_pages get_current_dir_name get_kernel_syms",
   "get_myaddress get_nprocs get_nprocs_conf get_phys_pages getaddrinfo getaddrinfo_a",
   "getaliasbyname getaliasbyname_r getaliasent getaliasent_r getauxval getc getc_unlocked",
   "getchar getchar_unlocked getcontext getcpu getcwd getdate getdate_err getdate_r getdelim",
   "getdents64 getdirentries getdirentries64 getdomainname getdtablesize getegid getentropy",
   "getenv geteuid getfsent getfsfile getfsspec getgid getgrent getgrent_r getgrgid",
   "getgrgid_r getgrnam getgrnam_r getgrouplist getgroups gethostbyaddr gethostbyaddr_r",
   "gethostbyname gethostbyname2 gethostbyname2_r gethostbyname_r gethostent gethostent_r",
   "gethostid gethostname getifaddrs getipv4sourcefilter getitimer getline getloadavg",
   "getlogin getlogin_r getmntent getmntent_r getmsg getnameinfo getnetbyaddr getnetbyaddr_r",
   "getnetbyname getnetbyname_r getnetent getnetent_r getnetgrent getnetgrent_r getnetname",
   "getopt getopt_long getopt_long_only getpagesize getpass getpeername getpgid getpgrp",
   "getpid getpmsg getppid getpriority getprotobyname getprotobyname_r getprotobynumber",
   "getprotobynumber_r getprotoent getprotoent_r getpt getpublickey getpw getpwent",
   "getpwent_r getpwnam getpwnam_r getpwuid getpwuid_r getrandom getresgid getresuid",
   "getrlimit getrlimit64 getrpcbyname getrpcbyname_r getrpcbynumber getrpcbynumber_r",
   "getrpcent getrpcent_r getrpcport getrusage gets getsecretkey getservbyname",
   "getservbyname_r getservbyport getservbyport_r getservent getservent_r getsgent",
   "getsgent_r getsgnam getsgnam_r getsid getsockname getsockopt getsourcefilter getspent",
   "getspent_r getspnam getspnam_r getsubopt gettext gettid gettimeofday getttyent getttynam",
   "getuid getusershell getutent getutent_r getutid getutid_r getutline getutline_r getutmp",
   "getutmpx getutxent getutxid getutxline getw getwc getwc_unlocked getwchar",
   "getwchar_unlocked getwd getxattr glob glob64 glob_pattern_p globfree globfree64 gmtime",
   "gmtime_r gnu_dev_major gnu_dev_makedev gnu_dev_minor gnu_get_libc_release",
   "gnu_get_libc_version grantpt group_member gsignal gtty h_errlist h_nerr hasmntopt",
   "hcreate hcreate_r hdestroy hdestroy_r herror host2netname hsearch hsearch_r hstrerror",
   "htonl htons iconv iconv_close iconv_open if_freenameindex if_indextoname if_nameindex",
   "if_nametoindex imaxabs imaxdiv in6addr_any in6addr_loopback index inet6_opt_append",
   "inet6_opt_find inet6_opt_finish inet6_opt_get_val inet6_opt_init inet6_opt_next",
   "inet6_opt_set_val inet6_option_alloc inet6_option_append inet6_option_find",
   "inet6_option_init inet6_option_next inet6_option_space inet6_rth_add inet6_rth_getaddr",
   "inet6_rth_init inet6_rth_reverse inet6_rth_segments inet6_rth_space inet_addr inet_aton",
   "inet_lnaof inet_makeaddr inet_netof inet_network inet_nsap_addr inet_nsap_ntoa inet_ntoa",
   "inet_ntop inet_pton init_module initgroups initstate initstate_r innetgr",
   "inotify_add_watch inotify_init inotify_init1 inotify_rm_watch insque ioctl ioperm iopl",
   "iruserok iruserok_af isalnum isalnum_l isalpha isalpha_l isascii isastream isatty",
   "isblank isblank_l iscntrl iscntrl_l isctype isdigit isdigit_l isfdtype isgraph isgraph_l",
   "isinf isinff isinfl islower islower_l isnan isnanf isnanl isprint isprint_l ispunct",
   "ispunct_l isspace isspace_l isupper isupper_l iswalnum iswalnum_l iswalpha iswalpha_l",
   "iswblank iswblank_l iswcntrl iswcntrl_l iswctype iswctype_l iswdigit iswdigit_l iswgraph",
   "iswgraph_l iswlower iswlower_l iswprint iswprint_l iswpunct iswpunct_l iswspace",
   "iswspace_l iswupper iswupper_l iswxdigit iswxdigit_l isxdigit isxdigit_l jrand48",
   "jrand48_r key_decryptsession key_decryptsession_pk key_encryptsession",
   "key_encryptsession_pk key_gendes key_get_conv key_secretkey_is_set key_setnet",
   "key_setsecret kill killpg klogctl l64a labs lchmod lchown lckpwdf lcong48 lcong48_r",
   "ldexp ldexpf ldexpl ldiv lfind lgetxattr link linkat lio_listio lio_listio64 listen",
   "listxattr llabs lldiv llistxattr llseek loc1 loc2 localeconv localtime localtime_r lockf",
   "lockf64 locs login login_tty logout logwtmp longjmp lrand48 lrand48_r lremovexattr",
   "lsearch lseek lseek64 lsetxattr lstat lstat64 lutimes madvise makecontext mallinfo",
   "mallinfo2 malloc malloc_info malloc_stats malloc_trim malloc_usable_size mallopt",
   "mallwatch mblen mbrlen mbrtoc16 mbrtoc32 mbrtoc8 mbrtowc mbsinit mbsnrtowcs mbsrtowcs",
   "mbstowcs mbtowc mcheck mcheck_check_all mcheck_pedantic mcount memalign memccpy memchr",
   "memcmp memcpy memfd_create memfrob memmem memmove mempcpy memrchr memset mincore mkdir",
   "mkdirat mkdtemp mkfifo mkfifoat mknod mknodat mkostemp mkostemp64 mkostemps mkostemps64",
   "mkstemp mkstemp64 mkstemps mkstemps64 mktemp mktime mlock mlock2 mlockall mmap mmap64",
   "modf modff modfl modify_ldt moncontrol monstartup mount mount_setattr move_mount mprobe",
   "mprotect mq_close mq_getattr mq_notify mq_open mq_receive mq_send mq_setattr",
   "mq_timedreceive mq_timedsend mq_unlink mrand48 mrand48_r mremap msgctl msgget msgrcv",
   "msgsnd msync mtrace mtx_destroy mtx_init mtx_lock mtx_timedlock mtx_trylock mtx_unlock",
   "munlock munlockall munmap muntrace name_to_handle_at nanosleep netname2host netname2user",
   "newlocale nfsservctl nftw nftw64 ngettext nice nl_langinfo nl_langinfo_l nrand48",
   "nrand48_r ns_name_compress ns_name_ntop ns_name_pack ns_name_pton ns_name_skip",
   "ns_name_uncompress ns_name_unpack ntohl ntohs ntp_adjtime ntp_gettime ntp_gettimex",
   "obstack_alloc_failed_handler obstack_exit_failure obstack_free obstack_printf",
   "obstack_vprintf on_exit open open64 open_by_handle_at open_memstream open_tree",
   "open_wmemstream openat openat64 opendir openlog openpty optarg opterr optind optopt",
   "parse_printf_format passwd2des pathconf pause pclose perror personality pidfd_getfd",
   "pidfd_open pidfd_send_signal pipe pipe2 pivot_root pkey_alloc pkey_free pkey_get",
   "pkey_mprotect pkey_set pmap_getmaps pmap_getport pmap_rmtcall pmap_set pmap_unset poll",
   "popen posix_fadvise posix_fadvise64 posix_fallocate posix_fallocate64 posix_madvise",
   "posix_memalign posix_openpt posix_spawn posix_spawn_file_actions_addchdir_np",
   "posix_spawn_file_actions_addclose posix_spawn_file_actions_addclosefrom_np",
   "posix_spawn_file_actions_adddup2 posix_spawn_file_actions_addfchdir_np",
   "posix_spawn_file_actions_addopen posix_spawn_file_actions_addtcsetpgrp_np",
   "posix_spawn_file_actions_destroy posix_spawn_file_actions_init posix_spawnattr_destroy",
   "posix_spawnattr_getflags posix_spawnattr_getpgroup posix_spawnattr_getschedparam",
   "posix_spawnattr_getschedpolicy posix_spawnattr_getsigdefault posix_spawnattr_getsigmask",
   "posix_spawnattr_init posix_spawnattr_setflags posix_spawnattr_setpgroup",
   "posix_spawnattr_setschedparam posix_spawnattr_setschedpolicy",
   "posix_spawnattr_setsigdefault posix_spawnattr_setsigmask posix_spawnp ppoll prctl pread",
   "pread64 preadv preadv2 preadv64 preadv64v2 printf printf_size printf_size_info prlimit",
   "prlimit64 process_madvise process_mrelease process_vm_readv process_vm_writev profil",
   "program_invocation_name program_invocation_short_name pselect psiginfo psignal",
   "pthread_atfork pthread_attr_destroy pthread_attr_getaffinity_np",
   "pthread_attr_getdetachstate pthread_attr_getguardsize pthread_attr_getinheritsched",
   "pthread_attr_getschedparam pthread_attr_getschedpolicy pthread_attr_getscope",
   "pthread_attr_getsigmask_np pthread_attr_getstack pthread_attr_getstackaddr",
   "pthread_attr_getstacksize pthread_attr_init pthread_attr_setaffinity_np",
   "pthread_attr_setdetachstate pthread_attr_setguardsize pthread_attr_setinheritsched",
   "pthread_attr_setschedparam pthread_attr_setschedpolicy pthread_attr_setscope",
   "pthread_attr_setsigmask_np pthread_attr_setstack pthread_attr_setstackaddr",
   "pthread_attr_setstacksize pthread_barrier_destroy pthread_barrier_init",
   "pthread_barrier_wait pthread_barrierattr_destroy pthread_barrierattr_getpshared",
   "pthread_barrierattr_init pthread_barrierattr_setpshared pthread_cancel",
   "pthread_clockjoin_np pthread_cond_broadcast pthread_cond_clockwait pthread_cond_destroy",
   "pthread_cond_init pthread_cond_signal pthread_cond_timedwait pthread_cond_wait",
   "pthread_condattr_destroy pthread_condattr_getclock pthread_condattr_getpshared",
   "pthread_condattr_init pthread_condattr_setclock pthread_condattr_setpshared",
   "pthread_create pthread_detach pthread_equal pthread_exit pthread_getaffinity_np",
   "pthread_getattr_default_np pthread_getattr_np pthread_getconcurrency",
   "pthread_getcpuclockid pthread_getname_np pthread_getschedparam pthread_getspecific",
   "pthread_join pthread_key_create pthread_key_delete pthread_kill",
   "pthread_kill_other_threads_np pthread_mutex_clocklock pthread_mutex_consistent",
   "pthread_mutex_consistent_np pthread_mutex_destroy pthread_mutex_getprioceiling",
   "pthread_mutex_init pthread_mutex_lock pthread_mutex_setprioceiling",
   "pthread_mutex_timedlock pthread_mutex_trylock pthread_mutex_unlock",
   "pthread_mutexattr_destroy pthread_mutexattr_getkind_np pthread_mutexattr_getprioceiling",
   "pthread_mutexattr_getprotocol pthread_mutexattr_getpshared pthread_mutexattr_getrobust",
   "pthread_mutexattr_getrobust_np pthread_mutexattr_gettype pthread_mutexattr_init",
   "pthread_mutexattr_setkind_np pthread_mutexattr_setprioceiling",
   "pthread_mutexattr_setprotocol pthread_mutexattr_setpshared pthread_mutexattr_setrobust",
   "pthread_mutexattr_setrobust_np pthread_mutexattr_settype pthread_once",
   "pthread_rwlock_clockrdlock pthread_rwlock_clockwrlock pthread_rwlock_destroy",
   "pthread_rwlock_init pthread_rwlock_rdlock pthread_rwlock_timedrdlock",
   "pthread_rwlock_timedwrlock pthread_rwlock_tryrdlock pthread_rwlock_trywrlock",
   "pthread_rwlock_unlock pthread_rwlock_wrlock pthread_rwlockattr_destroy",
   "pthread_rwlockattr_getkind_np pthread_rwlockattr_getpshared pthread_rwlockattr_init",
   "pthread_rwlockattr_setkind_np pthread_rwlockattr_setpshared pthread_self",
   "pthread_setaffinity_np pthread_setattr_default_np pthread_setcancelstate",
   "pthread_setcanceltype pthread_setconcurrency pthread_setname_np pthread_setschedparam",
   "pthread_setschedprio pthread_setspecific pthread_sigmask pthread_sigqueue",
   "pthread_spin_destroy pthread_spin_init pthread_spin_lock pthread_spin_trylock",
   "pthread_spin_unlock pthread_testcancel pthread_timedjoin_np pthread_tryjoin_np",
   "pthread_yield ptrace ptsname ptsname_r putc putc_unlocked putchar putchar_unlocked",
   "putenv putgrent putmsg putpmsg putpwent puts putsgent putspent pututline pututxline putw",
   "putwc putwc_unlocked putwchar putwchar_unlocked pvalloc pwrite pwrite64 pwritev pwritev2",
   "pwritev64 pwritev64v2 qecvt qecvt_r qfcvt qfcvt_r qgcvt qsort qsort_r query_module",
   "quick_exit quotactl raise rand rand_r random random_r rawmemchr rcmd rcmd_af re_comp",
   "re_compile_fastmap re_compile_pattern re_exec re_match re_match_2 re_max_failures",
   "re_search re_search_2 re_set_registers re_set_syntax re_syntax_options read readahead",
   "readdir readdir64 readdir64_r readdir_r readlink readlinkat readv realloc reallocarray",
   "realpath reboot recv recvfrom recvmmsg recvmsg regcomp regerror regexec regfree",
   "register_printf_function register_printf_modifier register_printf_specifier",
   "register_printf_type registerrpc remap_file_pages remove removexattr remque rename",
   "renameat renameat2 res_dnok res_hnok res_mailok res_mkquery res_nmkquery res_nquery",
   "res_nquerydomain res_nsearch res_nsend res_ownok res_query res_querydomain res_search",
   "res_send revoke rewind rewinddir rexec rexec_af rexecoptions rindex rmdir rpc_createerr",
   "rpmatch rresvport rresvport_af rtime ruserok ruserok_af ruserpass sbrk scalbn scalbnf",
   "scalbnl scandir scandir64 scandirat scandirat64 scanf sched_get_priority_max",
   "sched_get_priority_min sched_getaffinity sched_getcpu sched_getparam sched_getscheduler",
   "sched_rr_get_interval sched_setaffinity sched_setparam sched_setscheduler sched_yield",
   "secure_getenv seed48 seed48_r seekdir select sem_clockwait sem_close sem_destroy",
   "sem_getvalue sem_init sem_open sem_post sem_timedwait sem_trywait sem_unlink sem_wait",
   "semctl semget semop semtimedop send sendfile sendfile64 sendmmsg sendmsg sendto",
   "setaliasent setbuf setbuffer setcontext setdomainname setegid setenv seteuid setfsent",
   "setfsgid setfsuid setgid setgrent setgroups sethostent sethostid sethostname",
   "setipv4sourcefilter setitimer setjmp setlinebuf setlocale setlogin setlogmask setmntent",
   "setnetent setnetgrent setns setpgid setpgrp setpriority setprotoent setpwent setregid",
   "setresgid setresuid setreuid setrlimit setrlimit64 setrpcent setservent setsgent setsid",
   "setsockopt setsourcefilter setspent setstate setstate_r settimeofday setttyent setuid",
   "setusershell setutent setutxent setvbuf setxattr sgetsgent sgetsgent_r sgetspent",
   "sgetspent_r shm_open shm_unlink shmat shmctl shmdt shmget shutdown sigabbrev_np",
   "sigaction sigaddset sigaltstack sigandset sigblock sigdelset sigdescr_np sigemptyset",
   "sigfillset siggetmask sighold sigignore siginterrupt sigisemptyset sigismember",
   "siglongjmp signal signalfd sigorset sigpause sigpending sigprocmask sigqueue sigrelse",
   "sigreturn sigset sigsetmask sigstack sigsuspend sigtimedwait sigvec sigwait sigwaitinfo",
   "sleep snprintf sockatmark socket socketpair splice sprintf sprofil srand srand48",
   "srand48_r srandom srandom_r sscanf ssignal sstk stat stat64 statfs statfs64 statvfs",
   "statvfs64 statx stderr stdin stdout step stime stpcpy stpncpy strcasecmp strcasecmp_l",
   "strcasestr strcat strchr strchrnul strcmp strcoll strcoll_l strcpy strcspn strdup",
   "strerror strerror_l strerror_r strerrordesc_np strerrorname_np strfmon strfmon_l",
   "strfromd strfromf strfromf128 strfromf32 strfromf32x strfromf64 strfromf64x strfroml",
   "strfry strftime strftime_l strlen strncasecmp strncasecmp_l strncat strncmp strncpy",
   "strndup strnlen strpbrk strptime strptime_l strrchr strsep strsignal strspn strstr",
   "strtod strtod_l strtof strtof128 strtof128_l strtof32 strtof32_l strtof32x strtof32x_l",
   "strtof64 strtof64_l strtof64x strtof64x_l strtof_l strtoimax strtok strtok_r strtol",
   "strtol_l strtold strtold_l strtoll strtoll_l strtoq strtoul strtoul_l strtoull",
   "strtoull_l strtoumax strtouq strverscmp strxfrm strxfrm_l stty svc_exit svc_fdset",
   "svc_getreq svc_getreq_common svc_getreq_poll svc_getreqset svc_max_pollfd svc_pollfd",
   "svc_register svc_run svc_sendreply svc_unregister svcauthdes_stats svcerr_auth",
   "svcerr_decode svcerr_noproc svcerr_noprog svcerr_progvers svcerr_systemerr",
   "svcerr_weakauth svcfd_create svcraw_create svctcp_create svcudp_bufcreate svcudp_create",
   "svcudp_enablecache svcunix_create svcunixfd_create swab swapcontext swapoff swapon",
   "swprintf swscanf symlink symlinkat sync sync_file_range syncfs sys_errlist sys_nerr",
   "sys_sigabbrev sys_siglist syscall sysconf sysctl sysinfo syslog system sysv_signal",
   "tcdrain tcflow tcflush tcgetattr tcgetpgrp tcgetsid tcsendbreak tcsetattr tcsetpgrp",
   "tdelete tdestroy tee telldir tempnam textdomain tfind tgkill thrd_create thrd_current",
   "thrd_detach thrd_equal thrd_exit thrd_join thrd_sleep thrd_yield time timegm timelocal",
   "timer_create timer_delete timer_getoverrun timer_gettime timer_settime timerfd_create",
   "timerfd_gettime timerfd_settime times timespec_get timespec_getres timezone tmpfile",
   "tmpfile64 tmpnam tmpnam_r toascii tolower tolower_l toupper toupper_l towctrans",
   "towctrans_l towlower towlower_l towupper towupper_l tr_break truncate truncate64 tsearch",
   "tss_create tss_delete tss_get tss_set ttyname ttyname_r ttyslot twalk twalk_r tzname",
   "tzset ualarm ulckpwdf ulimit umask umount umount2 uname ungetc ungetwc unlink unlinkat",
   "unlockpt unsetenv unshare updwtmp updwtmpx uselib uselocale user2netname usleep ustat",
   "utime utimensat utimes utmpname utmpxname valloc vasprintf vdprintf verr verrx",
   "versionsort versionsort64 vfork vfprintf vfscanf vfwprintf vfwscanf vhangup vlimit",
   "vmsplice vprintf vscanf vsnprintf vsprintf vsscanf vswprintf vswscanf vsyslog vtimes",
   "vwarn vwarnx vwprintf vwscanf wait wait3 wait4 waitid waitpid warn warnx wcpcpy wcpncpy",
   "wcrtomb wcscasecmp wcscasecmp_l wcscat wcschr wcschrnul wcscmp wcscoll wcscoll_l wcscpy",
   "wcscspn wcsdup wcsftime wcsftime_l wcslen wcsncasecmp wcsncasecmp_l wcsncat wcsncmp",
   "wcsncpy wcsnlen wcsnrtombs wcspbrk wcsrchr wcsrtombs wcsspn wcsstr wcstod wcstod_l",
   "wcstof wcstof128 wcstof128_l wcstof32 wcstof32_l wcstof32x wcstof32x_l wcstof64",
   "wcstof64_l wcstof64x wcstof64x_l wcstof_l wcstoimax wcstok wcstol wcstol_l wcstold",
   "wcstold_l wcstoll wcstoll_l wcstombs wcstoq wcstoul wcstoul_l wcstoull wcstoull_l",
   "wcstoumax wcstouq wcswcs wcswidth wcsxfrm wcsxfrm_l wctob wctomb wctrans wctrans_l",
   "wctype wctype_l wcwidth wmemchr wmemcmp wmemcpy wmemmove wmempcpy wmemset wordexp",
   "wordfree wprintf write writev wscanf xdecrypt xdr_accepted_reply xdr_array",
   "xdr_authdes_cred xdr_authdes_verf xdr_authunix_parms xdr_bool xdr_bytes xdr_callhdr",
   "xdr_callmsg xdr_char xdr_cryptkeyarg xdr_cryptkeyarg2 xdr_cryptkeyres xdr_des_block",
   "xdr_double xdr_enum xdr_float xdr_free xdr_getcredres xdr_hyper xdr_int xdr_int16_t",
   "xdr_int32_t xdr_int64_t xdr_int8_t xdr_key_netstarg xdr_key_netstres xdr_keybuf",
   "xdr_keystatus xdr_long xdr_longlong_t xdr_netnamestr xdr_netobj xdr_opaque",
   "xdr_opaque_auth xdr_pmap xdr_pmaplist xdr_pointer xdr_quad_t xdr_reference",
   "xdr_rejected_reply xdr_replymsg xdr_rmtcall_args xdr_rmtcallres xdr_short xdr_sizeof",
   "xdr_string xdr_u_char xdr_u_hyper xdr_u_int xdr_u_long xdr_u_longlong_t xdr_u_quad_t",
   "xdr_u_short xdr_uint16_t xdr_uint32_t xdr_uint64_t xdr_uint8_t xdr_union xdr_unixcred",
   "xdr_vector xdr_void xdr_wrapstring xdrmem_create xdrrec_create xdrrec_endofrecord",
   "xdrrec_eof xdrrec_skiprecord xdrstdio_create xencrypt xprt_register xprt_unregister"]

/-- The names that the library of mathematical functions defines, several to a line. -/
def mathLines : List String :=
  ["acos acosf acosh acoshf acoshl acosl asin asinf asinh asinhf asinhl asinl atan atan2",
   "atan2f atan2l atanf atanh atanhf atanhl atanl cabs cabsf cabsl cacos cacosf cacosh",
   "cacoshf cacoshl cacosl canonicalize canonicalizef canonicalizel carg cargf cargl casin",
   "casinf casinh casinhf casinhl casinl catan catanf catanh catanhf catanhl catanl cbrt",
   "cbrtf cbrtl ccos ccosf ccosh ccoshf ccoshl ccosl ceil ceilf ceill cexp cexpf cexpl cimag",
   "cimagf cimagl clog clog10 clog10f clog10l clogf clogl conj conjf conjl copysign",
   "copysignf copysignl cos cosf cosh coshf coshl cosl cpow cpowf cpowl cproj cprojf cprojl",
   "creal crealf creall csin csinf csinh csinhf csinhl csinl csqrt csqrtf csqrtl ctan ctanf",
   "ctanh ctanhf ctanhl ctanl drem dremf dreml erf erfc erfcf erfcl erff erfl exp exp10",
   "exp10f exp10l exp2 exp2f exp2l expf expl expm1 expm1f expm1l fabs fabsf fabsl fdim fdimf",
   "fdiml feclearexcept fedisableexcept feenableexcept fegetenv fegetexcept fegetexceptflag",
   "fegetmode fegetround feholdexcept feraiseexcept fesetenv fesetexcept fesetexceptflag",
   "fesetmode fesetround fetestexcept fetestexceptflag feupdateenv finite finitef finitel",
   "floor floorf floorl fma fmaf fmal fmax fmaxf fmaximum fmaximum_mag fmaximum_mag_num",
   "fmaximum_mag_numf fmaximum_mag_numl fmaximum_magf fmaximum_magl fmaximum_num",
   "fmaximum_numf fmaximum_numl fmaximumf fmaximuml fmaxl fmaxmag fmaxmagf fmaxmagl fmin",
   "fminf fminimum fminimum_mag fminimum_mag_num fminimum_mag_numf fminimum_mag_numl",
   "fminimum_magf fminimum_magl fminimum_num fminimum_numf fminimum_numl fminimumf fminimuml",
   "fminl fminmag fminmagf fminmagl fmod fmodf fmodl frexp frexpf frexpl fromfp fromfpf",
   "fromfpl fromfpx fromfpxf fromfpxl gamma gammaf gammal getpayload getpayloadf getpayloadl",
   "hypot hypotf hypotl ilogb ilogbf ilogbl j0 j0f j0l j1 j1f j1l jn jnf jnl ldexp ldexpf",
   "ldexpl lgamma lgamma_r lgammaf lgammaf128_r lgammaf32_r lgammaf32x_r lgammaf64_r",
   "lgammaf64x_r lgammaf_r lgammal lgammal_r llogb llogbf llogbl llrint llrintf llrintl",
   "llround llroundf llroundl log log10 log10f log10l log1p log1pf log1pl log2 log2f log2l",
   "logb logbf logbl logf logl lrint lrintf lrintl lround lroundf lroundl matherr modf modff",
   "modfl nan nanf nanl nearbyint nearbyintf nearbyintl nextafter nextafterf nextafterl",
   "nextdown nextdownf nextdownl nexttoward nexttowardf nexttowardl nextup nextupf nextupl",
   "pow pow10 pow10f pow10l powf powl remainder remainderf remainderl remquo remquof remquol",
   "rint rintf rintl round roundeven roundevenf roundevenl roundf roundl scalb scalbf scalbl",
   "scalbln scalblnf scalblnl scalbn scalbnf scalbnl setpayload setpayloadf setpayloadl",
   "setpayloadsig setpayloadsigf setpayloadsigl signgam significand significandf",
   "significandl sin sincos sincosf sincosl sinf sinh sinhf sinhl sinl sqrt sqrtf sqrtl tan",
   "tanf tanh tanhf tanhl tanl tgamma tgammaf tgammal totalorder totalorderf totalorderl",
   "totalordermag totalordermagf totalordermagl trunc truncf truncl ufromfp ufromfpf",
   "ufromfpl ufromfpx ufromfpxf ufromfpxl y0 y0f y0l y1 y1f y1l yn ynf ynl"]

end Platform
end GrammarAssay
